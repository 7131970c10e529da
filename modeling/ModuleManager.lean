import ModuleManager.Declarative.Object
import ModuleManager.Declarative.Rfc3339
import ModuleManager.Declarative.Unstructured
import ModuleManager.Declarative.Accessor
import ModuleManager.Declarative.Reconciler
import ModuleManager.Declarative.Pass
import ModuleManager.Declarative.Store
import ModuleManager.Declarative.Outcome
import ModuleManager.Declarative.Labels
import ModuleManager.Declarative.Concurrency
import ModuleManager.Declarative.Runs
import ModuleManager.Util.FilePath
import ModuleManager.Util.Manifest
import ModuleManager.Util.Resource
