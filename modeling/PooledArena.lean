import PooledArena.Backing.Heap
import PooledArena.Main
import PooledArena.Trial
import PooledArena.Trial.Slots
import PooledArena.Proofs.LookAhead
import PooledArena.Proofs.InjectFirst
import PooledArena.Proofs.UsageRule
import PooledArena.Proofs.Accounting
import PooledArena.Proofs.Isolation
import PooledArena.Proofs.Session
import PooledArena.Proofs.Search
import PooledArena.Proofs.Addresses
import PooledArena.Proofs.Refusals
import PooledArena.Proofs.Holdings
import PooledArena.Proofs.Ownership
import PooledArena.Proofs.Padding
import PooledArena.Proofs.Waiting
import PooledArena.Proofs.Verdict
import PooledArena.Proofs.Founding
import PooledArena.Proofs.Sizes
import PooledArena.Proofs.Conservation
import PooledArena.Proofs.Overflow
import PooledArena.Proofs.Places
import PooledArena.Proofs.Tiling
import PooledArena.Proofs.Release
import PooledArena.Proofs.Overcount
