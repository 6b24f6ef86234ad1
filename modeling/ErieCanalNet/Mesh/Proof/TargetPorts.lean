import ErieCanalNet.Mesh.Catalog
import ErieCanalNet.Mesh.Proof.Upstream

/-!
# Target ports

Two functions find the target port of a service port in the endpoints. `GetTargetPortForServicePort`
goes by the name of the port; `GetTargetPortFromEndpoints` takes the only port of a subset for the
port of the service, whatever its name.

* `fromEndpoints_iff`: it finds the first port of a name exactly when no subset with another port
  alone comes before it;
* `target_ports_agree_iff`: the two agree exactly when, besides, the service port is the first of
  its number, or the first one leads to the same target port.
-/

namespace Mesh

open Go K8s

/-- The first endpoint port of a name. -/
def firstNamed (name : String) (subsets : List EndpointSubset) : Option EndpointPort :=
  (subsets.flatMap (·.ports)).find? fun port => port.name == name

/-- The first subset that has one port only, or a port of the name. -/
def firstTaken (name : String) (subsets : List EndpointSubset) : Option EndpointSubset :=
  subsets.find? fun subset =>
    subset.ports.length == 1 || subset.ports.any fun port => port.name == name

/-- The port alone in a subset that is reached before the first port `q` of the name is on the same
number. -/
def LoneAgrees (name : String) (subsets : List EndpointSubset) (q : EndpointPort) : Prop :=
  ∀ subset r, firstTaken name subsets = some subset → subset.ports = [r] →
    uint16 r.port = uint16 q.port

theorem findSome?_named (name : String) (subsets : List EndpointSubset) :
    (subsets.findSome? fun subset => subset.ports.find? fun port => port.name == name) =
      firstNamed name subsets := by
  rw [firstNamed, List.find?_flatMap]

theorem firstNamed_cons (name : String) (subset : EndpointSubset) (subsets : List EndpointSubset) :
    firstNamed name (subset :: subsets) =
      (subset.ports.find? fun port => port.name == name).or (firstNamed name subsets) := by
  rw [firstNamed, List.flatMap_cons, List.find?_append, firstNamed]

/-- The ports `GetTargetPortFromEndpoints` stops at: one that is alone, or the first of its name. -/
theorem exists_stop {name : String} (hname : name ≠ "") {q : EndpointPort} :
    ∀ {subsets : List EndpointSubset}, firstNamed name subsets = some q →
      ∃ r, (subsets.findSome? fun subset => subset.ports.find? fun port =>
          name.isEmpty || subset.ports.length == 1 || port.name == name) = some r ∧
        (uint16 r.port = uint16 q.port ↔ LoneAgrees name subsets q)
  | [], h => by simp [firstNamed] at h
  | subset :: subsets, h => by
    have hempty : name.isEmpty = false := by simpa using hname
    simp only [hempty, Bool.false_or]
    rw [firstNamed_cons] at h
    rw [List.findSome?_cons]
    by_cases hlone : subset.ports.length = 1
    · -- the shortcut: the name is not looked at
      obtain ⟨r, hr⟩ := List.length_eq_one_iff.1 hlone
      have htaken : firstTaken name (subset :: subsets) = some subset := by simp [firstTaken, hlone]
      refine ⟨r, by simp [hr], ?_⟩
      simp only [LoneAgrees, htaken, Option.some.injEq]
      constructor
      · rintro heq _ r' rfl hr'
        obtain rfl : r = r' := by simpa [hr] using hr'
        exact heq
      · intro hall
        exact hall subset r rfl hr
    · have hfind : (subset.ports.find? fun port => subset.ports.length == 1 || port.name == name) =
          subset.ports.find? fun port => port.name == name := by
        congr 1
        funext port
        simp [hlone]
      rw [hfind]
      cases hsub : subset.ports.find? fun port => port.name == name with
      | some q' =>
        obtain rfl : q' = q := by simpa [hsub] using h
        have htaken : firstTaken name (subset :: subsets) = some subset := by
          have hany : subset.ports.any (fun port => port.name == name) = true :=
            List.any_eq_true.2
              ⟨q', List.mem_of_find?_eq_some hsub, by simpa using List.find?_some hsub⟩
          simp [firstTaken, hany]
        refine ⟨q', rfl, iff_of_true rfl ?_⟩
        intro subset' r h' hr
        obtain rfl : subset = subset' := by simpa [htaken] using h'
        exact absurd (by simp [hr]) hlone
      | none =>
        have htaken : firstTaken name (subset :: subsets) = firstTaken name subsets := by
          have hany : subset.ports.any (fun port => port.name == name) = false := by
            simpa [List.find?_eq_none] using hsub
          simp [firstTaken, hlone, hany]
        have hrest : firstNamed name subsets = some q := by simpa [hsub] using h
        obtain ⟨r, hr, hiff⟩ := exists_stop hname hrest
        simp only [hempty, Bool.false_or] at hr
        exact ⟨r, hr, by rw [hiff, LoneAgrees, LoneAgrees, htaken]⟩

theorem fromEndpoints_iff {name : String} (hname : name ≠ "") {endpoints : Endpoints}
    {q : EndpointPort} (hq : firstNamed name endpoints.subsets = some q) :
    getTargetPortFromEndpoints name endpoints = uint16 q.port ↔
      LoneAgrees name endpoints.subsets q := by
  obtain ⟨r, hr, hiff⟩ := exists_stop hname hq
  rw [getTargetPortFromEndpoints, hr]
  exact hiff

/-! ## The result -/

/-- A service with several ports, each of a name of its own, and endpoints on ports of these names. -/
structure NamedPorts (svc : Service) (endpoints : Endpoints) : Prop where
  several : 1 < svc.ports.length
  named : ∀ portSpec ∈ svc.ports, portSpec.name ≠ ""
  unique : (svc.ports.map (·.name)).Nodup
  carried : ∀ subset ∈ endpoints.subsets, ∀ port ∈ subset.ports, port.name ∈ svc.ports.map (·.name)

/-- The name of the first service port of the same number leads to the same target port. -/
def FirstAgrees (svc : Service) (portSpec : ServicePort) (subsets : List EndpointSubset)
    (q : EndpointPort) : Prop :=
  ∀ first, svc.ports.find? (fun p => uint16 p.port == uint16 portSpec.port) = some first →
    ∃ q', firstNamed first.name subsets = some q' ∧ uint16 q'.port = uint16 q.port

/-- **The target port of a named port** is the number of the first endpoint port of that name, in
both lookups, exactly when no other port is alone in a subset before it and no other service port of
its number comes first, unless they lead to the same number. -/
theorem target_ports_agree_iff {c : K8s.Client} {key : String} {svc : Service} {endpoints : Endpoints}
    (hsvc : c.services.getByKey key = some svc) (heps : c.endpoints.getByKey key = some endpoints)
    (hports : NamedPorts svc endpoints) {portSpec : ServicePort} (hport : portSpec ∈ svc.ports)
    {q : EndpointPort} (hq : firstNamed portSpec.name endpoints.subsets = some q) :
    (getTargetPortFromEndpoints portSpec.name endpoints = uint16 q.port ∧
      getTargetPortForServicePort c key (uint16 portSpec.port) =
        .ok (getTargetPortFromEndpoints portSpec.name endpoints)) ↔
      LoneAgrees portSpec.name endpoints.subsets q ∧
        FirstAgrees svc portSpec endpoints.subsets q := by
  rw [← fromEndpoints_iff (hports.named portSpec hport) hq]
  refine and_congr_right fun hfrom => ?_
  obtain ⟨first, hfirst⟩ : ∃ first, svc.ports.find? (fun p => uint16 p.port == uint16 portSpec.port) =
      some first := by
    rw [← Option.isSome_iff_exists, List.find?_isSome]
    exact ⟨portSpec, hport, beq_self_eq_true _⟩
  simp only [getTargetPortForServicePort, hsvc, heps, hfirst, hfrom, findSome?_named, FirstAgrees,
    Option.map_some, Option.getD_some, Option.some.injEq, forall_eq']
  cases firstNamed first.name endpoints.subsets with
  | none => simp
  | some q' => simp

/-- The service `default/web` on the given ports. -/
def portsService (ports : List (String × Int)) : Service where
  md := webMeta
  uid := "u"
  clusterIP := "10.96.0.1"
  clusterIPs := ["10.96.0.1"]
  ports := ports.map fun (name, port) =>
    { name, protocol := "TCP", appProtocol := none, port, targetPort := 0 }

/-- Its endpoints, with the ports of each subset. -/
def portsEndpoints (subsets : List (List (String × Int))) : Endpoints where
  md := webMeta
  annotations := ∅
  subsets := subsets.map fun ports =>
    { addresses := [⟨"10.0.0.1", ""⟩]
      ports := ports.map fun (name, port) => { name, protocol := "TCP", appProtocol := none, port } }

def portsClient (svc : Service) (endpoints : Endpoints) : K8s.Client where
  services := ⟨[svc], List.nodup_singleton _⟩
  endpoints := ⟨[endpoints], List.nodup_singleton _⟩

/-- Two ports on one subset. -/
theorem target_ports_agree_one_subset :
    getTargetPortFromEndpoints "http" (portsEndpoints [[("http", 8080), ("metrics", 9090)]]) = 8080 ∧
      getTargetPortForServicePort
        (portsClient (portsService [("http", 80), ("metrics", 81)])
          (portsEndpoints [[("http", 8080), ("metrics", 9090)]])) "default/web" 80 = .ok 8080 := by
  have hports : NamedPorts (portsService [("http", 80), ("metrics", 81)])
      (portsEndpoints [[("http", 8080), ("metrics", 9090)]]) := by
    constructor <;> decide
  have hsvc : (portsClient (portsService [("http", 80), ("metrics", 81)])
      (portsEndpoints [[("http", 8080), ("metrics", 9090)]])).services.getByKey "default/web" =
        some (portsService [("http", 80), ("metrics", 81)]) := by decide
  refine (target_ports_agree_iff hsvc rfl hports (.head _)
    (q := ⟨"http", "TCP", none, 8080⟩) (by decide)).2 ⟨?_, ?_⟩
  · rintro subset r hsub hr
    obtain rfl := Option.some.inj hsub
    cases hr
  · rintro first hfirst
    obtain rfl := Option.some.inj hfirst
    exact ⟨_, rfl, rfl⟩

/-- Pods that expose the metrics only come first: their port is taken for the port `http`. And of
two ports of one number the lookup by number finds the first only. -/
theorem not_target_ports_agree :
    (NamedPorts (portsService [("http", 80), ("metrics", 81)])
        (portsEndpoints [[("metrics", 9090)], [("http", 8080), ("metrics", 9090)]]) ∧
      firstNamed "http" (portsEndpoints [[("metrics", 9090)],
        [("http", 8080), ("metrics", 9090)]]).subsets = some ⟨"http", "TCP", none, 8080⟩ ∧
      getTargetPortFromEndpoints "http" (portsEndpoints [[("metrics", 9090)],
        [("http", 8080), ("metrics", 9090)]]) = 9090) ∧
    (NamedPorts (portsService [("dns", 53), ("dns-tcp", 53)])
        (portsEndpoints [[("dns", 5353), ("dns-tcp", 5354)]]) ∧
      getTargetPortFromEndpoints "dns-tcp" (portsEndpoints [[("dns", 5353), ("dns-tcp", 5354)]]) =
        5354 ∧
      getTargetPortForServicePort (portsClient (portsService [("dns", 53), ("dns-tcp", 53)])
        (portsEndpoints [[("dns", 5353), ("dns-tcp", 5354)]])) "default/web" 53 = .ok 5353) := by
  refine ⟨⟨?_, by decide, by decide⟩, ⟨?_, by decide, by decide⟩⟩
  · constructor <;> decide
  · constructor <;> decide

end Mesh
