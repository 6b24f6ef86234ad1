import ErieCanalNet.Go.Net
import ErieCanalNet.Go.Strings

/-!
# Mesh services and their names

`pkg/ecnet/service/types.go` and the cluster-name decoder of the config generator
(`bridge/ctrlplane/server/util.go`). A cluster name prints the namespace, the name and the
*target* port of a service; `clusterToMeshSvc_clusterName`: decoding it gives these three back
and forgets the rest, the service port in particular.
-/

namespace Mesh

open Go

/-- The conversion `uint16(x)` of an integer. -/
def uint16 (x : Int) : UInt16 := UInt16.ofInt x

/-- Ports of services and endpoints that are ports: between 1 and 65535. -/
def IsPort (x : Int) : Prop := 1 ≤ x ∧ x ≤ 65535

instance (x : Int) : Decidable (IsPort x) := inferInstanceAs (Decidable (_ ∧ _))

theorem toNat_uint16 {x : Int} (h : IsPort x) : ((uint16 x).toNat : Int) = x := by
  obtain ⟨h1, h2⟩ := h
  have hlt : (x % 2 ^ 16).toNat < UInt16.size := by simp only [UInt16.size]; omega
  rw [uint16, UInt16.ofInt, UInt16.toNat_ofNat_of_lt' hlt]
  omega

theorem uint16_inj {x y : Int} (hx : IsPort x) (hy : IsPort y) : uint16 x = uint16 y ↔ x = y :=
  ⟨fun h => by rw [← toNat_uint16 hx, ← toNat_uint16 hy, h], congrArg _⟩

theorem uint16_ne_zero {x : Int} (h : IsPort x) : uint16 x ≠ 0 := fun h0 => by
  have := toNat_uint16 h
  rw [h0] at this
  obtain ⟨h1, -⟩ := h
  simp at this
  omega

theorem uint16_toNat (x : UInt16) : uint16 (x.toNat : Int) = x := by
  rw [uint16, UInt16.ofInt]
  have h : ((x.toNat : Int) % 2 ^ 16).toNat = x.toNat := by
    have := x.toNat_lt
    omega
  rw [h, UInt16.ofNat_toNat]

/-- `service.MeshService`. `ns` is the source's `Namespace`. -/
structure MeshService where
  ns : String
  name : String
  port : UInt16 := 0
  targetPort : UInt16 := 0
  protocol : String := ""
  serviceImportUID : String := ""
deriving DecidableEq, Repr

namespace MeshService

def subdomain (ms : MeshService) : String :=
  match split ms.name '.' with
  | [] | [_] => ""
  | c :: _ => c

def providerKey (ms : MeshService) : String := (split ms.name '.').getLastD ""

def namespacedKey (ms : MeshService) : String := ms.ns ++ "/" ++ ms.providerKey

def isMultiClusterService (ms : MeshService) : Bool := 0 < ms.serviceImportUID.length

def clusterName (ms : MeshService) : String :=
  ms.ns ++ "/" ++ ms.name ++ "|" ++ toString ms.targetPort.toNat

def fqdn (ms : MeshService) : String := ms.name ++ "." ++ ms.ns ++ ".svc.cluster.local"

def outboundTrafficMatchName (ms : MeshService) : String :=
  "outbound_" ++ (ms.ns ++ "/" ++ ms.name) ++ "_" ++ toString ms.port.toNat ++ "_" ++ ms.protocol

end MeshService

/-- `endpoint.Endpoint`: one address of a service. -/
structure Endpoint where
  ip : IP
  port : UInt32
  weight : UInt32 := 0
  clusterKey : String := ""
  lbType : String := ""
  path : String := ""
deriving DecidableEq

/-! ## Names without a subdomain -/

theorem subdomain_of_noDot {ms : MeshService} (h : '.' ∉ ms.name.toList) : ms.subdomain = "" := by
  simp [MeshService.subdomain, split_eq_singleton h]

theorem providerKey_of_noDot {ms : MeshService} (h : '.' ∉ ms.name.toList) :
    ms.providerKey = ms.name := by
  simp [MeshService.providerKey, split_eq_singleton h]

/-- A provider key never has a dot: it is the last component of a name. -/
theorem dot_notMem_providerKey (ms : MeshService) : '.' ∉ ms.providerKey.toList := by
  rw [MeshService.providerKey]
  rcases hs : split ms.name '.' with _ | ⟨c, cs⟩
  · simp
  · have hne : split ms.name '.' ≠ [] := by simp [hs]
    have := notMem_getLast_split ms.name '.' hne
    simpa [hs, List.getLast?_eq_some_getLast] using this

/-! ## Cluster names -/

/-- Why a cluster name was refused, with the texts the message prints. -/
inductive ClusterNameError
  | badName (cluster : String)
  | badPort (chunk : String) (err : NumError)
deriving DecidableEq, Repr

/-- The separators of a cluster name. -/
def isClusterSep (r : Char) : Bool := r == '/' || r == '|'

/-- `clusterToMeshSvc`: the service of a cluster name. The port of the name always is the
target port. -/
def clusterToMeshSvc (cluster : String) : Except ClusterNameError MeshService :=
  match fieldsFunc cluster isClusterSep with
  | [ns, name, chunk] =>
    match parseUint chunk 16 with
    | (port, none) => .ok { ns, name, targetPort := UInt16.ofNat port }
    | (_, some err) => .error (.badPort chunk err)
  | _ => .error (.badName cluster)

theorem isClusterSep_digit {c : Char} (h : c.isDigit = true) : isClusterSep c = false := by
  simp only [isClusterSep, Bool.or_eq_false_iff, beq_eq_false_iff_ne]
  constructor <;> rintro rfl <;> revert h <;> decide

/-- **A cluster name decodes** to its namespace, name and target port. -/
theorem clusterToMeshSvc_clusterName {ms : MeshService} (hns : ms.ns ≠ "") (hname : ms.name ≠ "")
    (hcns : ∀ c ∈ ms.ns.toList, isClusterSep c = false)
    (hcname : ∀ c ∈ ms.name.toList, isClusterSep c = false) :
    clusterToMeshSvc ms.clusterName =
      .ok { ns := ms.ns, name := ms.name, targetPort := ms.targetPort } := by
  have hf : fieldsFunc ms.clusterName isClusterSep =
      [ms.ns, ms.name, toString ms.targetPort.toNat] := by
    have h1 : ms.clusterName =
        ms.ns ++ String.singleton '/' ++ (ms.name ++ String.singleton '|' ++
          toString ms.targetPort.toNat) := by
      rw [MeshService.clusterName, show String.singleton '/' = "/" by decide,
        show String.singleton '|' = "|" by decide, String.append_assoc, String.append_assoc,
        String.append_assoc, String.append_assoc, String.append_assoc]
    rw [h1, fieldsFunc_cons hns hcns (by decide), fieldsFunc_cons hname hcname (by decide),
      fieldsFunc_last (toString_ne_empty _)
        fun c hc => isClusterSep_digit (isDigit_of_mem_toString hc)]
  have hp : parseUint (toString ms.targetPort.toNat) 16 = (ms.targetPort.toNat, none) :=
    parseUint_toString ms.targetPort.toNat_lt
  rw [clusterToMeshSvc, hf]
  simp only [hp, UInt16.ofNat_toNat]

example : clusterToMeshSvc "ns/a|b|80" = .error (.badName "ns/a|b|80") := by decide

end Mesh
