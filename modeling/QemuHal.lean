import QemuHal.Common.Blit
import QemuHal.Common.Flit
import QemuHal.Common.Hotplug
import QemuHal.Common.Layout
import QemuHal.Common.Mirror
import QemuHal.Common.Picking
import QemuHal.Common.Rk3568
import QemuHal.Common.Descriptors
import QemuHal.Common.FrameFences
import QemuHal.Common.Scanout
import QemuHal.Common.Planes
import QemuHal.Common.Uevent
import QemuHal.Core.AcquireFences
import QemuHal.Core.BufferRefs
import QemuHal.Core.Changes
import QemuHal.Core.Fences
import QemuHal.Core.Hardware
import QemuHal.Core.HotPlug
import QemuHal.Core.Isolation
import QemuHal.Core.LayerIds
import QemuHal.Core.Modes
import QemuHal.Core.Nulls
import QemuHal.Core.Preference
import QemuHal.Core.Presentation
import QemuHal.Core.Discovery
import QemuHal.Core.Registry
import QemuHal.Core.Startup
import QemuHal.Core.Understood
import QemuHal.Lib.FlipChain
import QemuHal.Drm.Sharing
import QemuHal.Drm.VsyncTimes
import QemuHal.Frame.Ownership
import QemuHal.Frame.Status
import QemuHal.Frame.Steady
import QemuHal.Gralloc.Mapping
import QemuHal.Gralloc.Sizes
import QemuHal.Gralloc.Sync
import QemuHal.Mpp.Discipline
import QemuHal.Mpp.Rates
