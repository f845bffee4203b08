import Mocktail.Audio.BufferQueue
import Mocktail.Audio.DeviceSwitches
import Mocktail.Audio.PlayoutTeardown
import Mocktail.Bionic.PthreadKeys
import Mocktail.Bionic.Rwlock
import Mocktail.Bionic.Sendmsg
import Mocktail.Compat.AllocatorRuns
import Mocktail.Compat.ApprovedLoads
import Mocktail.Discord.Session
import Mocktail.Experience.LaunchQueue
import Mocktail.Experience.LaunchSurfaces
import Mocktail.Experience.Returns
import Mocktail.Graphics.EtcConformance
import Mocktail.Graphics.GatheredUploads
import Mocktail.Graphics.OverlayPlacement
import Mocktail.Graphics.ScaledUploads
import Mocktail.Graphics.TextureResampling
import Mocktail.HostAbi.Aps2Sums
import Mocktail.HostAbi.ReferenceSelection
import Mocktail.HostAbi.SignatureSearch
import Mocktail.HostAbi.WellFormedProfiles
import Mocktail.Input.GamepadRouting
import Mocktail.Input.KeyBalance
import Mocktail.Input.Release
import Mocktail.Input.TextEchoes
import Mocktail.Input.TextGraphemes
import Mocktail.Input.VisibleWindow
import Mocktail.Jni.RefRuns
import Mocktail.Jni.StringBytes
import Mocktail.Launch.BrokerQueue
import Mocktail.Launch.CommandLine
import Mocktail.Launch.QueryOrder
import Mocktail.Linker.Registry
import Mocktail.Runtime.ConfigFile
import Mocktail.Runtime.NetworkProxy
import Mocktail.Runtime.PlatformCacheMigration
import Mocktail.Runtime.SupportBundle
import Mocktail.Runtime.WebViewEventQueue
import Mocktail.Runtime.WebViewStream
import Mocktail.Session.Presents
import Mocktail.Sky.Bc1Blocks
import Mocktail.Sky.TranscodeCache
import Mocktail.Update.DownloadRuns
import Mocktail.Update.ReadinessCanary
import Mocktail.Update.SignerBounds
import Mocktail.Update.TrustedTransfers
import Mocktail.Update.ZipContainment
import Mocktail.Window.CommandGate
import Mocktail.Window.ResizeReadiness
import Mocktail.Window.SurfaceBridge
import Mocktail.Window.TextInput
