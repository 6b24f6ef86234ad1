import ErieCanalNet.K8s.Types
import ErieCanalNet.Mesh.Service

/-!
# The Kubernetes controller

`pkg/ecnet/k8s/client.go`: lookups of services and endpoints in the informer caches, by the
namespaced key of a mesh service.
-/

namespace K8s

open Mesh

structure Client where
  services : Store Service (·.md)
  endpoints : Store Endpoints (·.md)

def Client.getService (c : Client) (svc : MeshService) : Option Service :=
  c.services.getByKey svc.namespacedKey

def Client.getEndpoints (c : Client) (svc : MeshService) : Option Endpoints :=
  c.endpoints.getByKey svc.namespacedKey

end K8s
