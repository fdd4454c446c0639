import P970.Lib.Run
import P970.Lib.LockOrder
import P970.Lib.Drain
import P970.Lib.Lease
import P970.Lib.Writes
import P970.Lib.Feed
import P970.Lib.Cells
import P970.Lib.Queue
import P970.Lib.Strides
import P970.Lib.Words
import P970.Lib.Outcome
import P970.Lib.CInt
import P970.Lib.Printf
import P970.Audio.Mixer
import P970.Audio.Capture
import P970.Audio.State
import P970.Audio.Device
import P970.Audio.Entry
import P970.Audio.Keeping
import P970.Audio.Locks
import P970.Audio.Streams
import P970.Audio.Lifecycle
import P970.Audio.Desk
import P970.Audio.Routing
import P970.Audio.Calls
import P970.Audio.Voice
import P970.Audio.Microphones
import P970.Audio.Present
import P970.Audio.Echo
import P970.Audio.References
import P970.Audio.Sharing
import P970.Audio.Session
import P970.Audio.Readers
import P970.Audio.Tty
import P970.Audio.Standbys
import P970.Audio.Resamplers
import P970.Audio.Returns
import P970.Audio.Heap
import P970.Audio.Mute
import P970.Audio.Iterations
import P970.Audio.Conservation
import P970.Audio.Leftovers
import P970.Audio.Progress
import P970.Audio.Periods
import P970.Audio.Frames
import P970.Audio.FailedStarts
import P970.Audio.Effects
import P970.Audio.Sizes
import P970.Audio.Delays
import P970.Audio.Forced
import P970.Lights.Pattern
import P970.Lights.Notifications
import P970.Lights.Blink
import P970.Lib.JavaText
import P970.Lib.Gregorian
import P970.Ril.Nitz
import P970.Ril.DateFormat
import P970.Ril.Malformed
import P970.Ril.NitzTime
import P970.Lib.Buffer
import P970.Audio.Remix
import P970.Recovery.Graphics
import P970.Recovery.Flip
import P970.Lib.CString
import P970.Bbversion.Cpversion
import P970.Lib.Hex
import P970.Wifi.Getmac
import P970.Lib.Utf16
import P970.Ril.Ussd
import P970.Audio.Outputs
import P970.Audio.Playback
import P970.Lib.RunLength
import P970.Recovery.Font
import P970.Recovery.Drawing
import P970.Lib.Mirror
import P970.Recovery.Turn
import P970.Recovery.Sessions
import P970.Lights.Device
import P970.Lib.Parcel
import P970.Ril.Unsolicited
import P970.Ril.Requests
import P970.Lib.Lines
import P970.Vendor.Blobs
import P970.Lib.Init
import P970.Rootdir.Usb
import P970.Wifi.Boot
