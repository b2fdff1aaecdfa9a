import ContextSnap.Core.Result
import ContextSnap.Lib.Program

/-!
# The database key

The key of the database lies in a keyring, in a form of the keyring's own. A file under the data
directory is the keyring that every platform has; it keeps the hexadecimal digits of a secret.
-/

namespace ContextSnap.Privacy

/-! ### Hexadecimal texts -/

def kDigits : Bytes := str "0123456789abcdef"

def toHex (bytes : Bytes) : Bytes :=
  bytes.flatMap fun (byte : UInt8) =>
    [kDigits.getD (byte >>> 4).toNat 0, kDigits.getD (byte &&& 0x0F).toNat 0]

def nibble (c : UInt8) : Option UInt8 :=
  if 48 ≤ c ∧ c ≤ 57 then some (c - 48)
  else if 97 ≤ c ∧ c ≤ 102 then some (c - 97 + 10)
  else if 65 ≤ c ∧ c ≤ 70 then some (c - 65 + 10)
  else none

/-- The loop of `from_hex`. A digit without a partner is not looked at. -/
def hexPairs : Bytes → Result Bytes
  | high :: low :: rest =>
      match nibble high, nibble low with
      | some high, some low => (hexPairs rest).map fun bytes => ((high <<< 4) ||| low) :: bytes
      | _, _ => .error (Err.invalid (str "invalid hex digit") (str "privacy.from_hex"))
  | _ => .ok []

def fromHex (hex : Bytes) : Result Bytes :=
  if hex.length % 2 ≠ 0 then
    .error (Err.invalid (str "hex string has odd length") (str "privacy.from_hex"))
  else hexPairs hex

/-! ### Keyrings -/

def keyBytes : Nat := 32

/-- A key is 32 bytes long. -/
structure Key where
  bytes : Bytes
  length_eq : bytes.length = keyBytes
  deriving DecidableEq

def kAccount : Bytes := str "database-key"

inductive KeyringOp where
  | get (account : Bytes)
  | set (account secret : Bytes)
  /-- `random_key`. -/
  | randomKey

def KeyringAnswer : KeyringOp → Type
  | .get _ => Result Bytes
  | .set _ _ => Status
  | .randomKey => Result Key

abbrev KeyringAction := Program KeyringOp KeyringAnswer

def askKeyring (op : KeyringOp) : KeyringAction (KeyringAnswer op) := .operation op

/-- The bytes as a key, if there are as many as it takes. -/
def keyOf (bytes : Bytes) : Option Key :=
  if h : bytes.length = keyBytes then some ⟨bytes, h⟩ else none

/-- What follows on a key that was drawn. -/
def storeKey : Result Key → KeyringAction (Result Key)
  | .error e => pure (.error e)
  | .ok fresh => do
      let stored : Status ← askKeyring (.set kAccount fresh.bytes)
      pure (stored.map fun _ => fresh)

def createKey : KeyringAction (Result Key) := do
  let fresh : Result Key ← askKeyring .randomKey
  storeKey fresh

/-- What follows on the key that was found, if it was one. -/
def keyOrCreate : Option Key → KeyringAction (Result Key)
  | some key => pure (.ok key)
  | none => createKey

def getOrCreateDatabaseKey : KeyringAction (Result Key) := do
  let existing : Result Bytes ← askKeyring (.get kAccount)
  keyOrCreate (existing.toOption.bind keyOf)

/-! ### Stores -/

/-- The form that a keyring keeps its secrets in. -/
structure SecretForm where
  encode : Bytes → Bytes
  decode : Bytes → Result Bytes
  decode_encode : ∀ secret, decode (encode secret) = .ok secret

/-- What a keyring holds for each account, and how often `set` was called. -/
structure SecretStore where
  stored : Bytes → Option Bytes := fun _ => none
  sets : Nat := 0

/-- What the operations answer while `get_or_create_database_key` runs once. -/
structure KeyringCall where
  get : Result Bytes
  set : Status
  random : Result Key

def SecretStore.put (store : SecretStore) (form : SecretForm) (account secret : Bytes)
    (result : Status) : SecretStore :=
  { stored := match result with
      | .ok _ => Function.update store.stored account (some (form.encode secret))
      | .error _ => store.stored
    sets := store.sets + 1 }

def KeyringCall.handler (form : SecretForm) (call : KeyringCall) :
    (op : KeyringOp) → SecretStore → Option (KeyringAnswer op × SecretStore)
  | .get _, store => some (call.get, store)
  | .randomKey, store => some (call.random, store)
  | .set account secret, store => some (call.set, store.put form account secret call.set)

/-- The result of one call, and the store behind it. -/
def KeyringCall.run (form : SecretForm) (call : KeyringCall) (store : SecretStore) :
    Option (Result Key × SecretStore) :=
  getOrCreateDatabaseKey.run (call.handler form) store

/-! ### The key file -/

/-- What the file system answers to `FileKeyring`. -/
structure KeyFile where
  readable : Bool := true
  directory : Status := .ok ()
  writable : Bool := true

/-- `FileKeyring::get`. -/
def KeyFile.get (file : KeyFile) (stored : Option Bytes) : Result Bytes :=
  match stored with
  | some hex =>
      if file.readable then fromHex hex
      else .error (Err.notFound (str "no stored secret") (str "privacy.keyring"))
  | none => .error (Err.notFound (str "no stored secret") (str "privacy.keyring"))

/-- `FileKeyring::set`, up to what it writes. -/
def KeyFile.set (file : KeyFile) : Status :=
  match file.directory with
  | .error e => .error e
  | .ok () =>
      if file.writable then .ok ()
      else .error
        { code := .ioError, message := str "cannot write key file", context := str "privacy.keyring" }

def KeyFile.call (file : KeyFile) (random : Result Key) (store : SecretStore) : KeyringCall :=
  { get := file.get (store.stored kAccount), set := file.set, random }

end ContextSnap.Privacy
