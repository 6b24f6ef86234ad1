import ErieCanalNet.Repo.Client

/-!
# Publishing the sidecar configuration

`publishSidecarConf` of `pkg/ecnet/bridge/ctrlplane/server/jobs.go`, the repo server it talks to,
and a run of the job. The generated configuration is left abstract: what the job reads of it is
its JSON. The repo is not part of this repository; `RepoServer` states what its API promises
about codebases that exist, which is all the client relies on.
-/

namespace Repo

open Lib

/-! ## The job -/

/-- `util.Hash`: FNV-1 of 64 bits. -/
def hash (bytes : List Byte) : UInt64 :=
  bytes.foldl (fun h b => (h * 1099511628211) ^^^ UInt64.ofNat b.toNat) 14695981039346656037

/-- The JSON of a configuration: `marshal` without time and version, `marshalIndent` with them. -/
structure ConfCodec (Conf : Type) where
  marshal : Conf → Option (List Byte)
  marshalIndent : Conf → (ts : Nat) → (version : String) → List Byte

/-- The hash a configuration is published under. -/
def ConfCodec.hash {Conf : Type} (codec : ConfCodec Conf) (conf : Conf) (pluginSetV : List Byte) :
    Option UInt64 :=
  (codec.marshal conf).map fun bytes => Repo.hash (bytes ++ pluginSetV)

/-- The names of `NewRepoServer`, under the configured codebase. -/
def underCodebase (repoServerCodebase name : String) : String :=
  if 0 < repoServerCodebase.utf8ByteSize then repoServerCodebase ++ "/" ++ name else name

def ecnetProxyCodebase (repoServerCodebase : String) : String :=
  underCodebase repoServerCodebase "ecnet"

def ecnetCodebaseRepo (repoServerCodebase : String) : String :=
  "/" ++ underCodebase repoServerCodebase "ecnet/base"

def proxyCodebase (repoServerCodebase : String) : String :=
  ecnetProxyCodebase repoServerCodebase ++ "/proxy.bridge.ecnet"

def ecnetCodebaseConfig : String := "config.json"

/-- The version set of the plugins, which `plugin` leaves empty. -/
def pluginSetVersion : List Byte := []

/-- Upload the stamped configuration to the proxy's codebase. -/
def uploadConf {Conf : Type} (codec : ConfCodec Conf) (proxyCodebase : String)
    (codebaseCurV : UInt64) (pipyConf : Conf) (ts : Nat) : RepoM (Option RepoError) := do
  let content := codec.marshalIndent pipyConf ts (toString codebaseCurV.toNat)
  let (_, err) ← batch (toString (codebaseCurV - 1).toNat)
    [{ basepath := proxyCodebase, items := [{ filename := ecnetCodebaseConfig, content }] }]
  return err

/-- `publishSidecarConf`: the new ETag. -/
def publishSidecarConf {Conf : Type} (codec : ConfCodec Conf) (repoServerCodebase : String)
    (etag : UInt64) (pipyConf : Conf) (ts : Nat) (pluginSetV : List Byte) : RepoM UInt64 :=
  match codec.hash pipyConf pluginSetV with
  | none => return etag
  | some codebaseCurV =>
    if codebaseCurV = etag then return etag
    else do
      let proxyCodebase := proxyCodebase repoServerCodebase
      let (success, err) ←
        deriveCodebase proxyCodebase (ecnetCodebaseRepo repoServerCodebase) (codebaseCurV - 2)
      let err ← (if success then uploadConf codec proxyCodebase codebaseCurV pipyConf ts
        else return err)
      if err.isSome then do
        let _ ← delete proxyCodebase
        return etag
      else return codebaseCurV

/-! ## The repo -/

/-- The path of a file in a codebase. -/
def pathIn (codebaseName file : String) : String := codebaseName ++ "/" ++ file

/-- A repo server: how it answers a request, and what it holds. The laws say what it does for a
codebase that exists, and that reading and creating are what they say. -/
structure RepoServer (σ : Type) where
  handle : σ → Request → (Nat × Codebase) × σ
  /-- The codebases. -/
  codebase : σ → String → Option Codebase
  /-- The committed files, by path. -/
  file : σ → String → Option (List Byte)
  /-- The uploaded files that wait for a commit, by path. -/
  staged : σ → String → Option (List Byte)
  get_state : ∀ s n, (handle s (.getRepo n)).2 = s
  get_found : ∀ {s n c}, codebase s n = some c → (handle s (.getRepo n)).1 = (200, c)
  get_missing : ∀ {s n}, codebase s n = none → (handle s (.getRepo n)).1.1 ≠ 200
  post_missing : ∀ {s n} b, codebase s n = none →
    isCreated (handle s (.postRepo n b)).1.1 = true ∧
      codebase (handle s (.postRepo n b)).2 n = some b
  upsert_found : ∀ {s n c} f t x, codebase s n = some c →
    isSuccess (handle s (.postFile (pathIn n f) t x)).1.1 = true ∧
      codebase (handle s (.postFile (pathIn n f) t x)).2 n = some c ∧
      staged (handle s (.postFile (pathIn n f) t x)).2 (pathIn n f) = some x
  commit_found : ∀ {s n c} b, codebase s n = some c →
    isSuccess (handle s (.patchRepo n b)).1.1 = true ∧
      (∃ c', codebase (handle s (.patchRepo n b)).2 n = some c' ∧ c'.version = b.version) ∧
      ∀ f x, staged s (pathIn n f) = some x →
        file (handle s (.patchRepo n b)).2 (pathIn n f) = some x

/-- What becomes of a request: the server answers it; it is refused by something in between; it
does not get through; or its answer is lost. -/
inductive Outcome
  | ok
  | refused (status : Nat) (failure : isSuccess status = false)
  | unreachable
  | lost

/-- The environment of a job: a server, and the outcome of each request by its number. -/
def respond {σ : Type} (server : RepoServer σ) (outcome : Nat → Request → Outcome) (s : σ × Nat)
    (req : Request) : Response × (σ × Nat) :=
  let r := server.handle s.1 req
  match outcome s.2 req with
  | .ok => (.answer r.1.1 r.1.2, (r.2, s.2 + 1))
  | .refused status _ => (.answer status { version := "" }, (s.1, s.2 + 1))
  | .unreachable => (.transportError, (s.1, s.2 + 1))
  | .lost => (.transportError, (r.2, s.2 + 1))

/-- One run of `PipyConfGeneratorJob`: the generated configuration, the time, and what becomes of
its requests. -/
structure Job (Conf : Type) where
  conf : Conf
  ts : Nat
  outcome : Nat → Request → Outcome

/-- The proxy's ETag and the repo. -/
structure PublishState (σ : Type) where
  etag : UInt64
  repo : σ

/-- The effect of a job; `none` when the process crashes. -/
def runJob {σ Conf : Type} (codec : ConfCodec Conf) (server : RepoServer σ)
    (repoServerCodebase : String) (st : PublishState σ) (job : Job Conf) :
    Option (PublishState σ) :=
  let (etag, repo, _) := Prog.run (respond server job.outcome)
    (publishSidecarConf codec repoServerCodebase st.etag job.conf job.ts pluginSetVersion)
    (st.repo, 0)
  etag.map fun etag => { etag, repo }

end Repo
