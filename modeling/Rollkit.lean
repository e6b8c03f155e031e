import Rollkit.Node.Retry
import Rollkit.Node.Height
import Rollkit.Types.Metadata
import Rollkit.Rpc.StoreServer
import Rollkit.Rpc.Json
import Rollkit.Rpc.Service
import Rollkit.Store.MetadataStore
