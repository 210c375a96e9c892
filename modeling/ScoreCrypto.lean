import ScoreCrypto.DataManager.Exclusive
import ScoreCrypto.DataManager.NodeLimit
import ScoreCrypto.KeyManagement.RefCount
import ScoreCrypto.KeyManagement.Routing
import ScoreCrypto.KeyManagement.SlotSharing
import ScoreCrypto.CertManagement.CacheLifetime
import ScoreCrypto.CertManagement.FreshReads
import ScoreCrypto.CertManagement.MemberSnapshot
import ScoreCrypto.CertManagement.Restart
import ScoreCrypto.CertManagement.WarmCold
import ScoreCrypto.Mediator.ShmAllocation
import ScoreCrypto.Provider.MacProviders
import ScoreCrypto.Provider.OpenSslHash
import ScoreCrypto.Provider.Pkcs11Hash
import ScoreCrypto.Ipc.ControlCodec
import ScoreCrypto.ControlPlane.BoundKey
import ScoreCrypto.ControlPlane.Correspondence
import ScoreCrypto.ControlPlane.Resolution
import ScoreCrypto.Api.PoolAllocator
import ScoreCrypto.Cryptoki.Audit
import ScoreCrypto.Cryptoki.FailedCalls
import ScoreCrypto.Cryptoki.Isolation
import ScoreCrypto.Cryptoki.Lifetimes
import ScoreCrypto.Cryptoki.Logins
import ScoreCrypto.Cryptoki.ReadOnly
import ScoreCrypto.Cryptoki.RoundTrip
