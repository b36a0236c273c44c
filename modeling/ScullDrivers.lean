import ScullDrivers.Buffer
import ScullDrivers.DmaPci.Balance
import ScullDrivers.DmaPci.Completion
import ScullDrivers.DmaPci.Registers
import ScullDrivers.DmaPci.Teardown
import ScullDrivers.Interaction.Lock
import ScullDrivers.Interaction.Threads
import ScullDrivers.Loopback.Driver
import ScullDrivers.Loopback.Statistics
import ScullDrivers.Nic.Balance
import ScullDrivers.Nic.Delivery
import ScullDrivers.Nic.Lifetime
import ScullDrivers.Nic.LockedRing
import ScullDrivers.Nic.Poll
import ScullDrivers.Nic.Publication
import ScullDrivers.Nic.Quiescence
import ScullDrivers.Nic.Receive
import ScullDrivers.Nic.SelfDeadlock
import ScullDrivers.Nic.Teardown
import ScullDrivers.Nic.TxQueue
import ScullDrivers.Pcie
import ScullDrivers.Pmd.Balance
import ScullDrivers.Pmd.Bounds
import ScullDrivers.Pmd.Bursts
import ScullDrivers.Pmd.Receive
import ScullDrivers.Pmd.Transmit
import ScullDrivers.ReadStream
import ScullDrivers.Resources.Binding
import ScullDrivers.Scull.Init
import ScullDrivers.Scull.Life
import ScullDrivers.Scull.Opens
import ScullDrivers.Scull.Read
import ScullDrivers.Scull.Representation
import ScullDrivers.Scull.Store
import ScullDrivers.SimpleDma.Load
import ScullDrivers.SimpleDma.Sharing
import ScullDrivers.SimpleDma.Transfer
import ScullDrivers.SimpleDma.UserApp
import ScullDrivers.Uio.Interrupts
import ScullDrivers.Uio.Probe
import ScullDrivers.Resources.Module
import ScullDrivers.SimpleNic.Driver
import ScullDrivers.Pmd.Polling
import ScullDrivers.Uio.Books
import ScullDrivers.Loopback.Module
