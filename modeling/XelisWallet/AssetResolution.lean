import XelisWallet.ErrorClassification
import XelisWallet.Flows
import XelisWallet.Runs
import XelisWallet.Sync

/-!
Asset data, from the storage of the wallet or from the daemon.

A call reads the storage, and only if the asset is not there it takes the lock that all
resolutions of the wallet share, reads again, asks the daemon and stores what it got. Every read,
every request and every write may fail, and the caller may drop the future wherever it waits. Any
number of calls run beside each other.
-/

namespace XelisWallet.AssetResolution

open Runs Flows Flows.Flow Sync
open ErrorClassification (AnyhowError WalletError Library)

variable {A D : Type}

/-! ### The function -/

/-- `Context::context`: the text is put in front, and the typed errors are still found. -/
def context (text : String) : AnyhowError → AnyhowError
  | .mk cause jsonRpc wallet => .mk (text ++ ": " ++ cause) jsonRpc wallet

def withContext {α : Type} (text : String) : Except AnyhowError α → Except AnyhowError α :=
  Except.mapError (context text)

/-- What a call waits for. -/
inductive Question (D : Type)
  | getOptionalAsset
  | lockResolution
  | isOnline
  | lockNetworkHandler
  | getAsset
  | addAsset (data : D)

/-- The network handler is only seen as being there. -/
def Answer : Question D → Type
  | .getOptionalAsset => Except AnyhowError (Option D)
  | .lockResolution => Unit
  | .isOnline => Bool
  | .lockNetworkHandler => Bool
  | .getAsset => Except AnyhowError D
  | .addAsset _ => Except AnyhowError Unit

abbrev AssetFlow (D : Type) := Flow AnyhowError (Question D) Answer

def resolveAssetData (loadCached : AssetFlow D (Option D)) (fetchFromDaemon : AssetFlow D D)
    (persist : D → AssetFlow D D) : AssetFlow D D := do
  match ← loadCached with
  | some assetData => pure assetData
  | none =>
    let _ ← request Question.lockResolution
    -- another request may have stored the asset while this one waited
    match ← loadCached with
    | some assetData => pure assetData
    | none =>
      let assetData ← fetchFromDaemon
      persist assetData

/-- The names and texts of the library errors, and how a hash is written. -/
structure Texts (A : Type) where
  library : Library
  hash : A → String

section Flows

variable (T : Texts A) (assetHash : A)

/-- `anyhow::Error::new`. -/
def ofWalletError (error : WalletError) : AnyhowError :=
  .mk (T.library.walletText error) none (some error)

def notOnline : AnyhowError :=
  context ("Asset " ++ T.hash assetHash ++ " not found in wallet storage/cache")
    (ofWalletError T .notOnlineMode)

def noNetworkHandler : AnyhowError := ofWalletError T .noNetworkHandler

def loadCached : AssetFlow D (Option D) := do
  let asset : Except AnyhowError (Option D) ← request (Q := Question D) .getOptionalAsset
  lift (withContext "Error reading asset from wallet storage" asset)

def fetchFromDaemon : AssetFlow D D := do
  let online : Bool ← request (Q := Question D) .isOnline
  if online then
    let handler : Bool ← request (Q := Question D) .lockNetworkHandler
    if handler then
      let data : Except AnyhowError D ← request (Q := Question D) .getAsset
      lift (withContext "Failed to fetch asset from daemon" data)
    else lift (.error (noNetworkHandler T))
  else lift (.error (notOnline T assetHash))

def persist (assetData : D) : AssetFlow D D := do
  let stored : Except AnyhowError Unit ← request (Question.addAsset assetData)
  let _ ← lift (withContext "Error storing fetched asset in wallet storage" stored)
  pure assetData

def getAssetData : AssetFlow D D :=
  resolveAssetData loadCached (fetchFromDaemon T assetHash) persist

end Flows

/-! ### The system -/

/-- A running call: its asset and the rest of its flow. -/
structure Call (A D : Type) where
  asset : A
  rest : AssetFlow D D

/-- The storage of the assets, the lock of the resolutions, and the calls. -/
structure Wallet (A D : Type) where
  cache : A → Option D
  lock : Lock ℕ
  calls : ℕ → Option (Call A D)

def Wallet.init (cache : A → Option D) : Wallet A D := ⟨cache, .free, fun _ => none⟩

inductive Event (A D : Type)
  | called (i : ℕ) (asset : A)
  /-- The storage is read, or reading it fails. -/
  | read (i : ℕ) (failure : Option AnyhowError)
  | locked (i : ℕ)
  | online (i : ℕ) (online : Bool)
  | handler (i : ℕ) (present : Bool)
  | fetched (i : ℕ) (result : Except AnyhowError D)
  /-- The asset is stored. -/
  | stored (i : ℕ) (asset : A) (data : D)
  | storeFailed (i : ℕ) (error : AnyhowError)
  | returned (i : ℕ) (result : Except AnyhowError D)
  /-- The future is dropped where it waits. -/
  | dropped (i : ℕ)

namespace Wallet

/-- The call goes on. -/
def resume (w : Wallet A D) (i : ℕ) (asset : A) (rest : AssetFlow D D) : Wallet A D :=
  { w with calls := Function.update w.calls i (some ⟨asset, rest⟩) }

/-- The call is gone, and its guard with it if it had one. -/
def release (w : Wallet A D) (i : ℕ) : Wallet A D where
  cache := w.cache
  lock := if w.lock.holder = some i then .free else w.lock
  calls := Function.update w.calls i none

/-- The storage is read, or the reading fails. -/
def readAsset (w : Wallet A D) (asset : A) : Option AnyhowError → Except AnyhowError (Option D)
  | some error => .error error
  | none => .ok (w.cache asset)

variable [DecidableEq A]

def store (w : Wallet A D) (asset : A) (data : D) : Wallet A D :=
  { w with cache := Function.update w.cache asset (some data) }

/-- What the events of a wallet do. -/
inductive Step (T : Texts A) (w : Wallet A D) : Event A D → Wallet A D → Prop
  | called {i : ℕ} {asset : A} (h : w.calls i = none) :
      Step T w (.called i asset) (w.resume i asset (getAssetData T asset))
  | read {i : ℕ} {asset : A} {k : Except AnyhowError (Option D) → AssetFlow D D}
      {failure : Option AnyhowError} (h : w.calls i = some ⟨asset, .ask .getOptionalAsset k⟩) :
      Step T w (.read i failure) (w.resume i asset (k (w.readAsset asset failure)))
  | locked {i : ℕ} {asset : A} {k : Unit → AssetFlow D D}
      (h : w.calls i = some ⟨asset, .ask .lockResolution k⟩) (hfree : w.lock.isFree = true) :
      Step T w (.locked i) { w.resume i asset (k ()) with lock := .taken i }
  | online {i : ℕ} {asset : A} {k : Bool → AssetFlow D D} {online : Bool}
      (h : w.calls i = some ⟨asset, .ask .isOnline k⟩) :
      Step T w (.online i online) (w.resume i asset (k online))
  | handler {i : ℕ} {asset : A} {k : Bool → AssetFlow D D} {present : Bool}
      (h : w.calls i = some ⟨asset, .ask .lockNetworkHandler k⟩) :
      Step T w (.handler i present) (w.resume i asset (k present))
  | fetched {i : ℕ} {asset : A} {k : Except AnyhowError D → AssetFlow D D}
      {result : Except AnyhowError D} (h : w.calls i = some ⟨asset, .ask .getAsset k⟩) :
      Step T w (.fetched i result) (w.resume i asset (k result))
  | stored {i : ℕ} {asset : A} {data : D} {k : Except AnyhowError Unit → AssetFlow D D}
      (h : w.calls i = some ⟨asset, .ask (.addAsset data) k⟩) :
      Step T w (.stored i asset data) ((w.store asset data).resume i asset (k (.ok ())))
  | storeFailed {i : ℕ} {asset : A} {data : D} {k : Except AnyhowError Unit → AssetFlow D D}
      {error : AnyhowError} (h : w.calls i = some ⟨asset, .ask (.addAsset data) k⟩) :
      Step T w (.storeFailed i error) (w.resume i asset (k (.error error)))
  | returned {i : ℕ} {asset : A} {result : Except AnyhowError D}
      (h : w.calls i = some ⟨asset, .done result⟩) : Step T w (.returned i result) (w.release i)
  | dropped {i : ℕ} {asset : A} {q : Question D} {k : Answer q → AssetFlow D D}
      (h : w.calls i = some ⟨asset, .ask q k⟩) : Step T w (.dropped i) (w.release i)

end Wallet

/-- The resolutions of a wallet as a transition system, from any storage. -/
def resolving [DecidableEq A] (T : Texts A) : System (Wallet A D) (Event A D) where
  init w := ∃ cache, w = Wallet.init cache
  step := Wallet.Step T

end XelisWallet.AssetResolution
