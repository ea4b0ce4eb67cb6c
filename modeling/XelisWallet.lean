import XelisWallet.AddressBookPages
import XelisWallet.AssetResolutionSafe
import XelisWallet.BroadcastSafe
import XelisWallet.ConnectionProgress
import XelisWallet.DartData
import XelisWallet.DartMultisigSafe
import XelisWallet.DartPreparedSafe
import XelisWallet.DartSubscriptionCancel
import XelisWallet.DartXswdSafe
import XelisWallet.Disclosure
import XelisWallet.DispatcherCallbacks
import XelisWallet.DispatcherTombs
import XelisWallet.LegacyContacts
import XelisWallet.MultisigSetup
import XelisWallet.NativeSubscriptionSpec
import XelisWallet.PayloadRoundTrip
import XelisWallet.PermissionCalls
import XelisWallet.PrepareCallsSafe
import XelisWallet.RuntimeLifecycleSafe
import XelisWallet.TableCache
import XelisWallet.TransferConflict
import XelisWallet.WholeBalance
