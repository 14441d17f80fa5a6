import ToyScheduler.Go
import ToyScheduler.Objects
import ToyScheduler.Picker
import ToyScheduler.SelectMostRequested
import ToyScheduler.GpuAccounting
import ToyScheduler.Scheduler
import ToyScheduler.Placement
import ToyScheduler.PickInputs
import ToyScheduler.Capacity
import ToyScheduler.PendingPods
import ToyScheduler.Snapshots
import ToyScheduler.PlacementModel
import ToyScheduler.Refinement
import ToyScheduler.Loop
