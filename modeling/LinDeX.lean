import LinDeX.SessionEngine.InFlight
import LinDeX.SessionEngine.Identifiers
import LinDeX.SessionEngine.Fences
import LinDeX.SessionEngine.Leases
import LinDeX.Vaapi.Prime
import LinDeX.Decode.EosTrace
import LinDeX.Decode.Isolation
import LinDeX.Decode.Staging
import LinDeX.Android.EncoderConfig
import LinDeX.Android.PrimeExport
import LinDeX.Android.LayoutRoles
import LinDeX.Client.Reception
import LinDeX.Client.Capabilities
import LinDeX.Client.Exchange
import LinDeX.Client.Ownership
import LinDeX.Repack.Tokens
import LinDeX.Gateway.Runs
import LinDeX.Bitstream.H264Config
import LinDeX.Bitstream.HevcConfig
import LinDeX.Bitstream.Av1Normalise
import LinDeX.Bitstream.RoundTrip
import LinDeX.Dmabuf.Runs
import LinDeX.Tools.KeyFrame
import LinDeX.Tools.ConfigRecord
import LinDeX.Egl.Extensions
import LinDeX.Encode.Pending
import LinDeX.Encode.Stream
import LinDeX.Encode.Polling
import LinDeX.Vaapi.Destruction
