import Tunelith.Lib.Transition
import Tunelith.Lib.Fifo
import Tunelith.Lib.Lease
import Tunelith.Lib.Lossy
import Tunelith.Lib.BigEndian
import Tunelith.Lib.WordSum
import Tunelith.Lib.ShortReads
import Tunelith.Lib.Eff
import Tunelith.Lib.Shelves
import Tunelith.Lib.Longest
import Tunelith.Lib.Slot
import Tunelith.Lib.Slices
import Tunelith.Lib.LittleEndian
import Tunelith.Core.Types
import Tunelith.Core.Proto
import Tunelith.Core.Notice
import Tunelith.Tunelithd.State
import Tunelith.Tunelithd.Step
import Tunelith.Tunelithd.Frame
import Tunelith.Tunelithd.Streams
import Tunelith.Tunelithd.Tuners
import Tunelith.Tunelithd.Sessions
import Tunelith.Tunelithd.Waiting
import Tunelith.Tunelithd.Departure
import Tunelith.Tunelithd.Notices
import Tunelith.Tunelithd.Delivery
import Tunelith.Client.State
import Tunelith.Client.Step
import Tunelith.Client.Calls
import Tunelith.Client.Acquire
import Tunelith.Client.Pending
import Tunelith.Px4.Demux
import Tunelith.Px4.Hub
import Tunelith.Px4.Reception
import Tunelith.Tunelithd.Answers
import Tunelith.Tunelithd.Receivers
import Tunelith.Tunelithd.Ending
import Tunelith.Client.Tokens
import Tunelith.Client.Reports
import Tunelith.Joint.State
import Tunelith.Joint.Wires
import Tunelith.Joint.Dials
import Tunelith.Joint.Endings
import Tunelith.Px4.Cutting
import Tunelith.Px4.Windows
import Tunelith.Bda.Aligner
import Tunelith.Bda.Tlv
import Tunelith.Core.Frames
import Tunelith.Px4.Tc90522
import Tunelith.Px4.Rt710
import Tunelith.Px4.R850Tables
import Tunelith.Px4.R850Chip
import Tunelith.Px4.R850Calibration
import Tunelith.Px4.R850
import Tunelith.Px4.R850Pll
import Tunelith.Px4.Rt710Pll
import Tunelith.Px4.Board
import Tunelith.Px4.Px4
import Tunelith.Px4.Ready
import Tunelith.Px4.Opened
import Tunelith.Px4.Cxd2856er
import Tunelith.Px4.Cxd2858er
import Tunelith.Px4.PxMlt
import Tunelith.Px4.Halves
import Tunelith.Px4.Counts
import Tunelith.Px4.Single
import Tunelith.Px4.Rest
import Tunelith.Px4.Silent
import Tunelith.Px4.AtRest
import Tunelith.Px4.Asleep
import Tunelith.Px4.Supply
import Tunelith.Px4.Afresh
import Tunelith.Px4.Streams
import Tunelith.Dvb.Tuner
import Tunelith.Tuners.Frequencies
import Tunelith.Px4.Tuner
import Tunelith.Bda.Tuner
import Tunelith.Tuners.Formats
import Tunelith.Bda.Lnb
import Tunelith.Bda.Opened
import Tunelith.Px4.Scan
import Tunelith.Px4.It930x
import Tunelith.Px4.Control
import Tunelith.Px4.Firmware
import Tunelith.Px4.Sequence
import Tunelith.Bondriver.Chunks
import Tunelith.Wasm.Tuner
import Tunelith.Bda.Ks
import Tunelith.Bda.Scan
import Tunelith.Lib.Halving
import Tunelith.Px4.Signal
import Tunelith.Px4.Gate
import Tunelith.Bda.Reader
import Tunelith.Bda.Capture
import Tunelith.Tunelithd.Asked
import Tunelith.Tunelithd.Carried
import Tunelith.Client.Asking
import Tunelith.Joint.Serving
import Tunelith.Lib.Cells
import Tunelith.Px4.R850Bits
import Tunelith.Px4.Leftovers
import Tunelith.Lib.Utf16
import Tunelith.Bondriver.Config
import Tunelith.Lib.FirstOf
import Tunelith.Core.Registry
import Tunelith.Cli.Direct
