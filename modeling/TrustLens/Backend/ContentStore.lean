import TrustLens.Backend.Cursor
import TrustLens.Lib.Anchored
import TrustLens.Lib.CrashLogic
import TrustLens.Lib.IdealCipher
import TrustLens.Lib.JsonFlat

/-!
# The content store

An object is a file with an envelope: the data under a fresh key, and that key under the one of the
store, both bound to the name of the object. Writing goes by way of a temporary file, which is made
durable before it takes its name; reading opens the envelope or refuses it. Every call of the system
may fail, be short, or be the last before a crash.
-/

namespace TrustLens.Backend.ContentStore

open AuditChain (hexGroup)
open Cases (Attempt member orRaise)

def KEK_VERSION_REF : String := "local-kek-v1"

def utf8 (s : String) : List UInt8 := s.toList.flatMap String.utf8EncodeChar

def WRAP_AAD : List UInt8 := utf8 "trustlens:dek-wrap:v1:"

def CONTENT_AAD : List UInt8 := utf8 "trustlens:evidence-content:v1:"

inductive Fault where
  | ContentStoreUnavailable
  | IntegrityFailure
  | OSError
  | FileNotFoundError
  | InvalidTag
  | python (e : PyException)
deriving DecidableEq

structure StoredObject where
  locator : String
  sha256 : String
  byte_length : ℕ
  key_version_ref : String
deriving DecidableEq

/-! ### The disk -/

structure File where
  content : List UInt8
  /-- the content survives a crash -/
  synced : Bool
deriving DecidableEq

/-- What a name stands for, and whether it was altered behind the store's back. -/
structure Entry where
  file : Option File
  altered : Bool
deriving DecidableEq

/-- The entries, and for each name those that a crash may bring back. -/
structure Disk where
  entries : String → Entry
  earlier : String → List Entry

def Disk.set (d : Disk) (name : String) (entry : Entry) : Disk where
  entries := Function.update d.entries name entry
  earlier := Function.update d.earlier name (d.entries name :: d.earlier name)

/-- A change of the file a name stands for. -/
def Disk.edit (d : Disk) (name : String) (f : File → File) : Disk where
  entries := Function.update d.entries name ⟨(d.entries name).file.map f, (d.entries name).altered⟩
  earlier := d.earlier

def Disk.candidates (d : Disk) (name : String) : List Entry := d.entries name :: d.earlier name

section Disk

variable (d : Disk) {name other : String} (entry : Entry) (f : File → File)

@[simp] lemma Disk.entries_set : (d.set name entry).entries name = entry := Function.update_self ..

lemma Disk.entries_set_of_ne (h : other ≠ name) : (d.set name entry).entries other = d.entries other :=
  Function.update_of_ne h ..

@[simp] lemma Disk.earlier_set : (d.set name entry).earlier name = d.candidates name := Function.update_self ..

lemma Disk.earlier_set_of_ne (h : other ≠ name) : (d.set name entry).earlier other = d.earlier other :=
  Function.update_of_ne h ..

@[simp] lemma Disk.entries_edit : (d.edit name f).entries name =
    ⟨(d.entries name).file.map f, (d.entries name).altered⟩ := Function.update_self ..

lemma Disk.entries_edit_of_ne (h : other ≠ name) : (d.edit name f).entries other = d.entries other :=
  Function.update_of_ne h ..

@[simp] lemma Disk.earlier_edit : (d.edit name f).earlier = d.earlier := rfl

end Disk

/-- What an entry may be after a crash: a file that was not synchronised may hold anything. -/
def Survives (before after : Entry) : Prop :=
  after.altered = before.altered ∧
    match before.file with
    | none => after.file = none
    | some f => ∃ g, after.file = some g ∧ g.synced = true ∧ (f.synced = true → g.content = f.content)

/-- Each name stands for what it stood for, or for what it stood for before. -/
def Crash (d d' : Disk) : Prop :=
  (∀ name, ∃ c ∈ d.candidates name, Survives c (d'.entries name)) ∧ ∀ name, d'.earlier name = []

/-! ### Calls of the system -/

inductive Outcome where
  | done
  | failed
  /-- fewer bytes were written than asked -/
  | short (n : ℕ)
  | crashed
deriving DecidableEq

abbrev Os : Type → Type := Interrupted Outcome Disk Fault

def os {α : Type} (effect : Disk → Except Fault (α × Disk)) : Os α :=
  Interrupted.call fun outcome d =>
    match outcome, effect d with
    | .done, .ok (a, d') => (.returned a, d')
    | .done, .error e => (.raised e, d)
    | .crashed, .ok (_, d') => (.crashed, d')
    | .crashed, .error _ => (.crashed, d)
    | .failed, _ => (.raised .OSError, d)
    | .short _, _ => (.raised .OSError, d)

/-- A random value of the system. -/
def draw {α : Type} (value : α) : Os α := os fun d => .ok (value, d)

/-- `os.open(temp, O_WRONLY | O_CREAT | O_EXCL)` -/
def openExclusive (temp : String) : Os Unit := os fun d =>
  if (d.entries temp).file.isSome then .error .OSError else .ok ((), d.set temp ⟨some ⟨[], false⟩, false⟩)

/-- `os.write` -/
def write (temp : String) (data : List UInt8) : Os ℕ :=
  Interrupted.call fun outcome d =>
    let append (data : List UInt8) := d.edit temp fun f => ⟨f.content ++ data, false⟩
    match outcome with
    | .done => (.returned data.length, append data)
    | .short n => (.returned (min n data.length), append (data.take n))
    | .failed => (.raised .OSError, d)
    | .crashed => (.crashed, append data)

/-- `os.fsync` of a file -/
def fsync (temp : String) : Os Unit := os fun d => .ok ((), d.edit temp fun f => ⟨f.content, true⟩)

def close : Os Unit := os fun d => .ok ((), d)

/-- `final.exists()` -/
def pathExists (name : String) : Os Bool := os fun d => .ok ((d.entries name).file.isSome, d)

/-- `os.replace` -/
def replace (temp final : String) : Os Unit := os fun d =>
  if (d.entries temp).file.isNone then .error .FileNotFoundError
  else .ok ((), (d.set final (d.entries temp)).set temp ⟨none, false⟩)

/-- `os.open(self._root, O_RDONLY)` -/
def openDirectory : Os Unit := os fun d => .ok ((), d)

/-- `os.fsync` of the directory -/
def fsyncDirectory : Os Unit := os fun d => .ok ((), { d with earlier := fun _ => [] })

/-- `temp.unlink(missing_ok=True)` -/
def unlink (temp : String) : Os Unit := os fun d => .ok ((), d.set temp ⟨none, false⟩)

/-- `path.read_bytes()` -/
def readBytes (path : String) : Os (List UInt8) := os fun d =>
  match (d.entries path).file with
  | none => .error .FileNotFoundError
  | some f => .ok (f.content, d)

/-! ### Writing -/

/-- What a call of `put` draws at random, and its data. -/
structure Job where
  locator : String
  dataKey : List UInt8
  contentNonce : List UInt8
  wrapNonce : List UInt8
  suffix : String
  data : List UInt8
  locator_hex : hexGroup 32 locator.toList = true
  dataKey_length : dataKey.length = 32
  contentNonce_length : contentNonce.length = 12
  wrapNonce_length : wrapNonce.length = 12

/-- The steps of `_write_all` that are left, with the bytes that are. -/
def writeLoop (temp : String) : ℕ → List UInt8 → Os Unit
  | 0, _ => pure ()
  | steps + 1, data =>
    if data = [] then pure ()
    else do
      let written ← write temp data
      if written = 0 then throw .OSError else writeLoop temp steps (data.drop written)

/-- `_write_all`: every step writes a byte or fails. -/
def _write_all (temp : String) (data : List UInt8) : Os Unit := writeLoop temp data.length data

/-- `_path` -/
def _path (locator : String) : Except Fault String :=
  if Schema.anchored (hexGroup 32) locator then .ok (locator ++ ".tle")
  else .error .ContentStoreUnavailable

def tempName (locator suffix : String) : String := "." ++ locator ++ "." ++ suffix ++ ".tmp"

/-- `base64.b64encode` -/
def b64encode (bytes : List UInt8) : String :=
  String.ofList ((Base64.encode bytes).map fun c => if c = '-' then '+' else if c = '_' then '/' else c)

section Store

variable (encrypt : Sealed → List UInt8) (kek : List UInt8)

def wrapMessage (job : Job) : Sealed := ⟨kek, job.wrapNonce, job.dataKey, WRAP_AAD ++ utf8 job.locator⟩

def contentMessage (job : Job) : Sealed :=
  ⟨job.dataKey, job.contentNonce, job.data, CONTENT_AAD ++ utf8 job.locator⟩

def messages (job : Job) : List Sealed := [wrapMessage kek job, contentMessage job]

def envelope (job : Job) : List (String × Json) :=
  [("v", .int 1), ("kek", .str KEK_VERSION_REF),
    ("wn", .str (b64encode job.wrapNonce)), ("wk", .str (b64encode (encrypt (wrapMessage kek job)))),
    ("n", .str (b64encode job.contentNonce)), ("ct", .str (b64encode (encrypt (contentMessage job))))]

/-- `json.dumps(envelope, separators=(",", ":")).encode()` -/
def envelopeBytes (job : Job) : List UInt8 :=
  (Json.text PyFloat.repr (.obj (envelope encrypt kek job))).flatMap String.utf8EncodeChar

/-- The body of the `try` of `put`. -/
def publish (temp final : String) (data : List UInt8) : Os Unit := do
  openExclusive temp
  (do _write_all temp data; fsync temp : Os Unit).ensuring close
  let found ← pathExists final
  if found then throw .ContentStoreUnavailable
  else do
    replace temp final
    openDirectory
    fsyncDirectory.ensuring close

/-- `except OSError: raise ContentStoreUnavailable("durable write failed")` -/
def unavailable (e : Fault) : Os Unit :=
  if e ∈ [.OSError, .FileNotFoundError] then throw .ContentStoreUnavailable else throw e

/-- `except OSError: pass` -/
def pass (e : Fault) : Os Unit :=
  if e ∈ [.OSError, .FileNotFoundError] then pure () else throw e

/-- `put` -/
def put (sha256 : List UInt8 → String) (job : Job) : Os StoredObject := do
  let locator ← draw job.locator
  let _data_key ← draw job.dataKey
  let _content_nonce ← draw job.contentNonce
  let _wrap_nonce ← draw job.wrapNonce
  let final ← Interrupted.ofExcept (_path locator)
  let suffix ← draw job.suffix
  let temp := tempName locator suffix
  (tryCatch (publish temp final (envelopeBytes encrypt kek job)) unavailable).ensuring
    (tryCatch (unlink temp) pass)
  return ⟨locator, sha256 job.data, job.data.length, KEK_VERSION_REF⟩

/-! ### Reading -/

/-- `value == 1` -/
def isFormatVersion : Json → Bool
  | .int n => n == 1
  | .float x => x == .finite 1
  | .bool b => b
  | _ => false

/-- `base64.b64decode`, which skips the symbols of the other alphabet. -/
def b64decode : Json → Attempt (List UInt8)
  | .str s => orRaise .ValueError (Base64.decode (s.toList.filter fun c => c != '-' && c != '_'))
  | _ => .error .TypeError

def python {α : Type} : Attempt α → Except Fault α
  | .ok a => .ok a
  | .error e => .error (.python e)

/-- `AESGCM(key).decrypt(nonce, ciphertext, aad)` -/
def decrypt (log : List Sealed) (key nonce ciphertext aad : List UInt8) : Except Fault (List UInt8) :=
  if key.length ∉ [16, 24, 32] then .error (.python .ValueError)
  else if nonce.length < 8 ∨ 128 < nonce.length then .error (.python .ValueError)
  else
    match Sealed.opens encrypt log key nonce ciphertext aad with
    | none => .error .InvalidTag
    | some plain => .ok plain

/-- The body of the second `try` of `get`. -/
def openEnvelope (log : List Sealed) (locator : String) (envelope : Json) : Except Fault (List UInt8) := do
  let v ← python (member envelope "v")
  if isFormatVersion v then do
    let version ← python (member envelope "kek")
    if version = .str KEK_VERSION_REF then do
      let wn ← python (member envelope "wn")
      let wrap_nonce ← python (b64decode wn)
      let wk ← python (member envelope "wk")
      let wrapped ← python (b64decode wk)
      let data_key ← decrypt encrypt log kek wrap_nonce wrapped (WRAP_AAD ++ utf8 locator)
      let n ← python (member envelope "n")
      let nonce ← python (b64decode n)
      let ct ← python (member envelope "ct")
      let ciphertext ← python (b64decode ct)
      decrypt encrypt log data_key nonce ciphertext (CONTENT_AAD ++ utf8 locator)
    else .error .IntegrityFailure
  else .error .IntegrityFailure

/-- The exceptions of the first `try` of `get`. -/
def unreadable (e : Fault) : Os Json :=
  if e = .FileNotFoundError then throw .ContentStoreUnavailable
  else if e ∈ [.OSError, .python .ValueError] then throw .IntegrityFailure
  else throw e

/-- `except (InvalidTag, KeyError, ValueError, TypeError)` -/
def unauthentic (e : Fault) : Os (List UInt8) :=
  if e ∈ [.InvalidTag, .python .KeyError, .python .ValueError, .python .TypeError] then
    throw .IntegrityFailure
  else throw e

/-- `get`, with the nesting the interpreter reads and the messages that were sealed so far. -/
def get (nesting : ℕ) (log : List Sealed) (locator : String) : Os (List UInt8) := do
  let path ← Interrupted.ofExcept (_path locator)
  let envelope ← tryCatch (do
    let raw ← readBytes path
    Interrupted.ofExcept (python (Json.loadsBytes nesting raw))) unreadable
  tryCatch (Interrupted.ofExcept (openEnvelope encrypt kek log locator envelope)) unauthentic

/-- `verify` -/
def verify (sha256 : List UInt8 → String) (nesting : ℕ) (log : List Sealed) (locator : String)
    (expected_sha256 : String) (expected_length : ℕ) : Os Unit := do
  let data ← get encrypt kek nesting log locator
  if data.length ≠ expected_length ∨ sha256 data ≠ expected_sha256 then throw .IntegrityFailure
  else pure ()

end Store

end TrustLens.Backend.ContentStore
