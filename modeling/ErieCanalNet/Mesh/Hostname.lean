import ErieCanalNet.Mesh.Outbound

/-!
# Hostnames of services

`pkg/ecnet/k8s/util.go`: the service and the subdomain a hostname stands for, decided by the number
of its parts and, for two and three parts, by the namespaces the controller knows.
-/

namespace Mesh

open Go K8s

/-- The controller, with the names of its cached namespaces. -/
structure Controller where
  namespaces : List String
  valid : ∀ ns ∈ namespaces, isDNS1123Label ns = true

/-- `GetNamespace`. -/
def Controller.getNamespace (c : Controller) (ns : String) : Option String :=
  c.namespaces.find? fun n => n == ns

/-- The host without its port. -/
def chopPort (host : String) : String := (split host ':').headD ""

/-- `splitHostName`: the service and the subdomain; without a controller the namespaces are not
known. -/
def splitHostName (c : Option Controller) (host : String) : String × String :=
  match split (chopPort host) '.' with
  | [p1] => (p1, "")
  | [p1, p2] =>
    match c with
    | none => (p1, "")
    | some c => if (c.getNamespace p2).isNone then (p2, p1) else (p1, "")
  | [p1, p2, tld] =>
    match c with
    | none => if tld = "svc" then (p1, "") else (p2, p1)
    | some c => if (c.getNamespace tld).isNone then (p1, "") else (p2, p1)
  | [p1, p2, _, _] => (p2, p1)
  | [p1, _, _, _, _] => (p1, "")
  | [p1, p2, _, _, _, _] => (p2, p1)
  | serviceComponents => (serviceComponents.headD "", "")

def getServiceFromHostname (c : Option Controller) (host : String) : String :=
  (splitHostName c host).1

def getSubdomainFromHostname (c : Option Controller) (host : String) : String :=
  (splitHostName c host).2

end Mesh
