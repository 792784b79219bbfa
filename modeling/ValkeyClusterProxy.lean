import ValkeyClusterProxy.Proto.Resp
import ValkeyClusterProxy.Go.Strings
import ValkeyClusterProxy.Pipeline
import ValkeyClusterProxy.Backend
import ValkeyClusterProxy.ValkeyConn
import ValkeyClusterProxy.Session.Basic
import ValkeyClusterProxy.Session.Writer
import ValkeyClusterProxy.Session.Ordering
import ValkeyClusterProxy.Session.Reader
import ValkeyClusterProxy.Session.Pipelining
import ValkeyClusterProxy.Session.GetFailure
import ValkeyClusterProxy.Session.Redirection
import ValkeyClusterProxy.Session.Authentication
import ValkeyClusterProxy.Session.Exits
import ValkeyClusterProxy.Session.Routing
import ValkeyClusterProxy.Session.Transaction
import ValkeyClusterProxy.Session.Failure
import ValkeyClusterProxy.Session.BackendErrors
import ValkeyClusterProxy.Session.Safety
import ValkeyClusterProxy.Dispatcher.Topology
import ValkeyClusterProxy.Dispatcher.ReloadLoop
import ValkeyClusterProxy.Dispatcher.StartupLoad
import ValkeyClusterProxy.Dispatcher.ReadPreference
