import FornaxStore.Basic
import FornaxStore.Store
import FornaxStore.List
import FornaxStore.Watch
import FornaxStore.Concurrent
import FornaxStore.Spec.Reference
import FornaxStore.Properties.Change
import FornaxStore.Properties.Invariant
import FornaxStore.Properties.Events
import FornaxStore.Properties.Refinement
import FornaxStore.Properties.Scan
import FornaxStore.Properties.Paging
import FornaxStore.Properties.Pagination
import FornaxStore.Properties.Replay
import FornaxStore.Properties.ListWatch
import FornaxStore.Properties.Interleaving
import FornaxStore.Properties.Simulation
import FornaxStore.Properties.Search
import FornaxStore.Properties.Ensure
import FornaxStore.Quiesce
import FornaxStore.Properties.Deadlock
import FornaxStore.PodCgroup
import FornaxStore.Properties.PodCgroup
import FornaxStore.Properties.Revisions
import FornaxStore.Shrink
import FornaxStore.Properties.Shrink
import FornaxStore.Properties.ObsEq
import FornaxStore.Properties.Destroy
import FornaxStore.Properties.Updates
import FornaxStore.Properties.Exclusion
import FornaxStore.Properties.Announce
