import ErieCanalNet.Go.Strings
import ErieCanalNet.Lib.Bytes
import ErieCanalNet.Lib.Interact

/-!
# The client of the Pipy repo

`pkg/ecnet/pipy/repo/client/client.go`, as programs over the repo's REST requests. Results are
the Go results: a success flag, the codebase read (if any) and the error (if any). A codebase
pointer that is read while nil crashes the program.
-/

namespace Repo

open Go Lib

/-! ## Requests and responses -/

/-- The fields of a codebase the client reads or writes. -/
structure Codebase where
  version : String
  base : String := ""
deriving DecidableEq, Repr

/-- A request, by its resource: `repo/<name>` or `repo-files/<path>`. -/
inductive Request
  | getRepo (name : String)
  | postRepo (name : String) (body : Codebase)
  | patchRepo (name : String) (body : Codebase)
  | deleteRepo (name : String)
  | postFile (path contentType : String) (content : List Byte)
  | deleteFile (path : String)
deriving DecidableEq

/-- A transport error, or a status with the codebase in the body. -/
inductive Response
  | transportError
  | answer (status : Nat) (body : Codebase)
deriving DecidableEq, Repr

inductive RepoError
  | transport
  | creating (name : String) (status : Nat)
  | deriveFrom (name base : String) (status : Nat)
  | upserting (path : String) (status : Nat)
  | deletingCodebase (name : String) (status : Nat)
  | deletingFile (path : String) (status : Nat)
  | committing (name : String) (status : Nat)
  | badVersion (err : NumError)
deriving DecidableEq, Repr

abbrev RepoM := Prog Request Response

/-- `resp.IsSuccess()`. -/
def isSuccess (status : Nat) : Bool := 199 < status && status < 300

/-- `resp.StatusCode()` is `StatusOK` or `StatusCreated`. -/
def isCreated (status : Nat) : Bool := status == 200 || status == 201

/-! ## Single requests -/

/-- Read a codebase; a status other than 200 reads as no codebase, without an error. -/
def readCodebase (name : String) : RepoM (Bool × Option Codebase × Option RepoError) := do
  match ← Prog.send (.getRepo name) with
  | .transportError => return (false, none, some .transport)
  | .answer status body => return (true, if status = 200 then some body else none, none)

def isCodebaseExists (codebaseName : String) :
    RepoM (Bool × Option Codebase × Option RepoError) :=
  readCodebase codebaseName

def getCodebase (codebaseName : String) : RepoM (Bool × Option Codebase × Option RepoError) :=
  readCodebase (if 1 < codebaseName.utf8ByteSize then codebaseName else "")

def createCodebase (version codebaseName : String) :
    RepoM (Bool × Option Codebase × Option RepoError) := do
  match ← Prog.send (.postRepo codebaseName { version }) with
  | .transportError => return (false, none, some .transport)
  | .answer status _ =>
    if isCreated status then getCodebase codebaseName
    else return (false, none, some (.creating codebaseName status))

/-- The unexported `deriveCodebase`. -/
def deriveCodebase' (codebaseName base : String) (version : UInt64) :
    RepoM (Bool × Option Codebase × Option RepoError) := do
  match ← Prog.send (.postRepo codebaseName { version := toString version.toNat, base }) with
  | .transportError => return (false, none, some .transport)
  | .answer status _ =>
    if isCreated status then getCodebase codebaseName
    else return (true, none, some (.deriveFrom codebaseName base status))

/-- A request that has to be answered with success. -/
def submit (req : Request) (refused : Nat → RepoError) : RepoM (Bool × Option RepoError) := do
  match ← Prog.send req with
  | .transportError => return (false, some .transport)
  | .answer status _ =>
    if isSuccess status then return (true, none) else return (false, some (refused status))

def upsertFile (path : String) (content : List Byte) : RepoM (Bool × Option RepoError) :=
  let contentType := if hasSuffix path ".json" then "application/json" else "text/plain"
  submit (.postFile path contentType content) (.upserting path)

def delete (codebaseName : String) : RepoM (Bool × Option RepoError) :=
  submit (.deleteRepo codebaseName) (.deletingCodebase codebaseName)

def deleteFile (fileName : String) : RepoM (Bool × Option RepoError) :=
  submit (.deleteFile fileName) (.deletingFile fileName)

/-- The codebase's version grows by one, as a `uint64`. -/
def commit (codebaseName version : String) : RepoM (Bool × Option RepoError) :=
  match parseUint version 64 with
  | (_, some err) => return (false, some (.badVersion err))
  | (etag, none) =>
    submit (.patchRepo codebaseName { version := toString ((etag + 1) % 2 ^ 64) })
      (.committing codebaseName)

/-! ## Batches -/

structure BatchItem where
  obsolete : Bool := false
  path : String := ""
  filename : String
  content : List Byte

structure Batch where
  basepath : String
  items : List BatchItem

def BatchItem.fullPath (item : BatchItem) (basepath : String) : String :=
  basepath ++ item.path ++ "/" ++ item.filename

/-- The item loop of `Batch`; `some r` is a return of `r`. A failed deletion is only logged. -/
def batchItems (basepath : String) : List BatchItem → RepoM (Option (Bool × Option RepoError))
  | [] => return none
  | item :: items =>
    if item.obsolete then do
      let _ ← deleteFile (item.fullPath basepath)
      batchItems basepath items
    else do
      let (success, err) ← upsertFile (item.fullPath basepath) item.content
      if err.isSome || !success then return some (success, err) else batchItems basepath items

/-- Upload and commit one batch to its codebase; `some r` is a return of `r`. -/
def commitBatch (batch : Batch) (codebaseV : String) :
    RepoM (Option (Bool × Option RepoError)) := do
  match ← batchItems batch.basepath batch.items with
  | some r => return some r
  | none =>
    let (success, err) ← commit batch.basepath codebaseV
    if err.isSome || !success then return some (success, err) else return none

/-- The body of the loop of `Batch`. A codebase that was created and could not be read back
returns from `Batch` with what the read said: success, and no error. -/
def batchOne (version : String) (batch : Batch) : RepoM (Option (Bool × Option RepoError)) := do
  let (success, codebase, err) ← isCodebaseExists batch.basepath
  if err.isSome then return some (success, err)
  else match codebase with
    | some codebase => commitBatch batch codebase.version
    | none =>
      let (success, codebase, err) ← createCodebase version batch.basepath
      match codebase with
      | none => return some (success, err)
      | some codebase =>
        if err.isSome || !success then return some (success, err)
        else commitBatch batch codebase.version

def batchLoop (version : String) : List Batch → RepoM (Bool × Option RepoError)
  | [] => return (true, none)
  | batch :: batches => do
    match ← batchOne version batch with
    | some r => return r
    | none => batchLoop version batches

/-- `Batch`: submit several resources at once. -/
def batch (version : String) (batches : List Batch) : RepoM (Bool × Option RepoError) :=
  if batches.isEmpty then return (false, none) else batchLoop version batches

/-- `DeriveCodebase`. -/
def deriveCodebase (codebaseName base : String) (version : UInt64) :
    RepoM (Bool × Option RepoError) := do
  let (success, codebase, err) ← isCodebaseExists codebaseName
  if err.isSome || codebase.isSome then return (success, err)
  else
    let (success, codebase, err) ← deriveCodebase' codebaseName base version
    if err.isSome then return (success, err)
    else match codebase with
      | none => Prog.crash
      | some codebase => commit codebaseName codebase.version

end Repo
