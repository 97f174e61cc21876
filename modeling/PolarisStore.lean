import PolarisStore.PGElectionStore
import PolarisStore.PGElectionMachine
import PolarisStore.PGElectionSystem
import PolarisStore.PGElectionVersion
import PolarisStore.PGElectionLease
import PolarisStore.PGElectionLeadership
import PolarisStore.PGElectionSolo
import PolarisStore.PGSqlText
import PolarisStore.PGInstanceClean
import PolarisStore.PGRowStream
import PolarisStore.PGCacheSync
import PolarisStore.PGFilterSql
import PolarisStore.PGElectionCooldown
import PolarisStore.PGRetry
import PolarisStore.PGFilterBind
import PolarisStore.PGInstanceCleanTx
import PolarisStore.PGCircuitBreakerStore
import PolarisStore.PGCircuitBreakerBinding
