import Chip8Console.Beeper.Basic
import Chip8Console.Beeper.Speaker
import Chip8Console.Config
import Chip8Console.Console
import Chip8Console.Core
import Chip8Console.Demo
import Chip8Console.Devices.Basic
import Chip8Console.Devices.Call
import Chip8Console.Failure
import Chip8Console.Keypad.Basic
import Chip8Console.Keypad.Keymap
import Chip8Console.Log
import Chip8Console.Main
import Chip8Console.Memory.Basic
import Chip8Console.Memory.Images
import Chip8Console.Memory.Source
import Chip8Console.Numeric.Binary64
import Chip8Console.Numeric.Decimal
import Chip8Console.Numeric.Shortest
import Chip8Console.Pacer
import Chip8Console.Proofs.Alike
import Chip8Console.Proofs.Batches
import Chip8Console.Proofs.BindingLists
import Chip8Console.Proofs.CapitalKeys
import Chip8Console.Proofs.CardPicture
import Chip8Console.Proofs.CardSession
import Chip8Console.Proofs.DeviceCalls
import Chip8Console.Proofs.DeviceParts
import Chip8Console.Proofs.ExactTimes
import Chip8Console.Proofs.Expiry
import Chip8Console.Proofs.FailedLoads
import Chip8Console.Proofs.Faults
import Chip8Console.Proofs.Frames
import Chip8Console.Proofs.IgnoredRefreshes
import Chip8Console.Proofs.InstalledImages
import Chip8Console.Proofs.Isolation
import Chip8Console.Proofs.KeyDelivery
import Chip8Console.Proofs.KeyHistory
import Chip8Console.Proofs.KeyTracking
import Chip8Console.Proofs.Keymaps
import Chip8Console.Proofs.LeftoverTones
import Chip8Console.Proofs.Lifecycle
import Chip8Console.Proofs.MemoryHistory
import Chip8Console.Proofs.MissedStrikes
import Chip8Console.Proofs.Omissions
import Chip8Console.Proofs.Pacing
import Chip8Console.Proofs.ParkedFaults
import Chip8Console.Proofs.PicturePoints
import Chip8Console.Proofs.Pictures
import Chip8Console.Proofs.Playing
import Chip8Console.Proofs.Presented
import Chip8Console.Proofs.Redraws
import Chip8Console.Proofs.Runs
import Chip8Console.Proofs.ScreenHistory
import Chip8Console.Proofs.Scripted
import Chip8Console.Proofs.Sessions
import Chip8Console.Proofs.Sources
import Chip8Console.Proofs.TerminalPicture
import Chip8Console.Proofs.Tones
import Chip8Console.Proofs.Visits
import Chip8Console.Random
import Chip8Console.Screen.Basic
import Chip8Console.Screen.Plane
import Chip8Console.Terminal.Ansi
import Chip8Console.Terminal.Canvas
import Chip8Console.Terminal.Display
import Chip8Console.Terminal.Grid
import Chip8Console.Terminal.KeyEvent
import Chip8Console.Terminal.KeyText
import Chip8Console.Terminal.KeyTracker
import Chip8Console.Terminal.Panel
import Chip8Console.Terminal.Play
import Chip8Console.Terminal.Typeahead
import Chip8Console.TestCard
import Chip8Console.Text.Faceless
import Chip8Console.Text.Hex
import Chip8Console.Text.Quoted
