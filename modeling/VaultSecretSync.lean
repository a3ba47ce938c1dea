import VaultSecretSync.Config
import VaultSecretSync.Graph.Build
import VaultSecretSync.Graph.Levels
import VaultSecretSync.Graph.Order
import VaultSecretSync.Pipeline.Steps
import VaultSecretSync.Pipeline.Run
import VaultSecretSync.Pipeline.Configs
import VaultSecretSync.Pipeline.S3Store
import VaultSecretSync.Utils.DeepMerge
import VaultSecretSync.Utils.MergeLaws
import VaultSecretSync.Utils.Unicode
import VaultSecretSync.Utils.Strings
import VaultSecretSync.Diff
import VaultSecretSync.Discovery
import VaultSecretSync.Discovery.AccountsList
import VaultSecretSync.IdentityCenter
import VaultSecretSync.ExecutionContext
import VaultSecretSync.Backend.File
import VaultSecretSync.Stores.Doppler
import VaultSecretSync.Migrate
import VaultSecretSync.Pipeline.New
import VaultSecretSync.Pipeline.Parallel
import VaultSecretSync.Commands
import VaultSecretSync.Config.Load
import VaultSecretSync.Discovery.Organizations
import VaultSecretSync.ExecutionContext.Setup
import VaultSecretSync.Discovery.IdentityCenter
import VaultSecretSync.Pipeline.S3Objects
import VaultSecretSync.Diff.Format
import VaultSecretSync.Graph.Print
