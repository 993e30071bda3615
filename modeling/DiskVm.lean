import DiskVm.Basic
import DiskVm.Vm.Base
import DiskVm.Vm.Overlay
import DiskVm.Utils
import DiskVm.Data
import DiskVm.Host
import DiskVm.Plugins.Base
import DiskVm.Runner.Discovery
import DiskVm.Runner.Teardown
import DiskVm.Runner.LevelOrder
import DiskVm.Runner.Walk
import DiskVm.Runner.Session
import DiskVm.Plugins.Generic
import DiskVm.Runner.Fallback
import DiskVm.Plugins.VeraCrypt
import DiskVm.Runner.SystemEncryption
import DiskVm.Vm.Vmx
import DiskVm.Vm.Vmware
import DiskVm.Vm.Vmdk
import DiskVm.Structure
import DiskVm.Plugins.VeraCryptHeader
import DiskVm.Plugins.PasswordBypass
import DiskVm.Plugins.BitLocker
import DiskVm.Plugins.OnTheFly
import DiskVm.Plugins.Luks
import DiskVm.Runner.KeyFiles
import DiskVm.Cli
