import CosmacVip.Address
import CosmacVip.CallStack
import CosmacVip.Command
import CosmacVip.Controls
import CosmacVip.Display
import CosmacVip.Failure
import CosmacVip.Frequency
import CosmacVip.HostKey
import CosmacVip.Instruction
import CosmacVip.Instruction.Text
import CosmacVip.Keypad
import CosmacVip.Keypad.Reading
import CosmacVip.Machine.Config
import CosmacVip.Machine.Fault
import CosmacVip.Machine.State
import CosmacVip.Machine.Step
import CosmacVip.Machine.Timers
import CosmacVip.Machine.View
import CosmacVip.Main
import CosmacVip.Memory
import CosmacVip.Player
import CosmacVip.Preferences
import CosmacVip.Proofs.Calls
import CosmacVip.Proofs.Words.Checked
import CosmacVip.Proofs.Words.Execution
import CosmacVip.Proofs.Words.Operation
import CosmacVip.Proofs.Words.State
import CosmacVip.Random.ChaCha
import CosmacVip.Random.Stream
import CosmacVip.Terminal.Bell
import CosmacVip.Terminal.Frame
import CosmacVip.Terminal.KeyReport
import CosmacVip.Terminal.Screen
import CosmacVip.Text.Hex
import CosmacVip.Text.Milliseconds
import CosmacVip.Text.Printable
import CosmacVip.Text.Quoted
import CosmacVip.Text.Record
import CosmacVip.Yaml.Cursor
import CosmacVip.Yaml.Document
import CosmacVip.Yaml.Layout
import CosmacVip.Yaml.Node
import CosmacVip.Yaml.Scalar
import CosmacVip.Yaml.Scalar.Reading
import CosmacVip.Yaml.Token
import CosmacVip.Proofs.Words.Image
import CosmacVip.Proofs.Words.Host
import CosmacVip.Proofs.Words.Drawing
import CosmacVip.Proofs.Words.Agreement
import CosmacVip.Proofs.Words.Traps
import CosmacVip.Proofs.Frame
import CosmacVip.Proofs.Picture
import CosmacVip.Proofs.Player.Calls
import CosmacVip.Proofs.Player.Tone
import CosmacVip.Proofs.Controls
import CosmacVip.Proofs.Player.Keys
import CosmacVip.Proofs.Fetch
import CosmacVip.Proofs.Subroutines
import CosmacVip.Proofs.Stops
import CosmacVip.Proofs.Loading
import CosmacVip.Proofs.Player.Headless
import CosmacVip.Proofs.Controls.Reports
import CosmacVip.Proofs.Interleaving
import CosmacVip.Proofs.Player.Idle
import CosmacVip.Proofs.Player.Restart
import CosmacVip.Proofs.Waiting
import CosmacVip.Proofs.Beats
import CosmacVip.Proofs.RandomBytes
import CosmacVip.Proofs.Instruction.Forms
import CosmacVip.Proofs.Instruction.Lines
import CosmacVip.Proofs.Sprites
import CosmacVip.Proofs.Sprites.Commuting
import CosmacVip.Proofs.Controls.Hold
import CosmacVip.Proofs.Footprint
import CosmacVip.Proofs.Transfers
import CosmacVip.Proofs.Arithmetic
import CosmacVip.Proofs.Flow
import CosmacVip.Proofs.Terminal.Device
import CosmacVip.Proofs.Terminal.Shown
import CosmacVip.Proofs.Batches
import CosmacVip.Proofs.Controls.Bindings
import CosmacVip.Proofs.HostKey
import CosmacVip.Proofs.Terminal.HalfBlocks
import CosmacVip.Proofs.Words.Frames
import CosmacVip.Proofs.Views
import CosmacVip.Proofs.Hex
import CosmacVip.Proofs.Keypad
import CosmacVip.Proofs.Words.Listing
import CosmacVip.Proofs.Views.Listing
import CosmacVip.Proofs.Milliseconds
