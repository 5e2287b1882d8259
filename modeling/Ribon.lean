import Ribon.Update.Fitting
import Ribon.Boot.Refresh
import Ribon.Boot.Layout
import Ribon.Arch.X8664Walk
import Ribon.Update.Images
import Ribon.Arch.Aarch64BridgeWalk
import Ribon.Uefi.Placement
import Ribon.Luca.Handoff
import Ribon.Network.SnpBound
import Ribon.Ribos.Preparation
import Ribon.Update.LayoutPlan
import Ribon.Security.Hashes
import Ribon.Update.Acceptance
import Ribon.Config.Selection
import Ribon.Network.Recovery
import Ribon.Arch.Aarch64BridgeRanges
