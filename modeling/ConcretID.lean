import ConcretID.Library.Result
import ConcretID.Library.Chain
import ConcretID.Library.Ring
import ConcretID.Library.Memory
import ConcretID.Library.Network
import ConcretID.Ems.Types
import ConcretID.Ems.RidTable
import ConcretID.Ems.Transmission
import ConcretID.Ems.Node
import ConcretID.Ems.Messages
import ConcretID.Ems.SendOut
import ConcretID.Ems.Interface
import ConcretID.Ems.Process
import ConcretID.Ems.Content
import ConcretID.Ems.Receive
import ConcretID.Ems.Neighbors.Table
import ConcretID.Ems.Neighbors.Register
import ConcretID.Ems.Routes.Order
import ConcretID.Ems.Routes.Table
import ConcretID.Ems.Routes.Runs
import ConcretID.Ems.Slot
import ConcretID.Ems.Effects
import ConcretID.Ems.Mail
import ConcretID.Ems.Sending
import ConcretID.Ems.Deeds
import ConcretID.Ems.Handling
import ConcretID.Ems.Relay
import ConcretID.Ems.Outcome
import ConcretID.Ems.Calls
import ConcretID.Ems.Neighbors.History
import ConcretID.Ems.Deployment
import ConcretID.Ems.Handshake
import ConcretID.Ems.Discovery
import ConcretID.Ems.Retention
import ConcretID.Ems.Flooding
import ConcretID.Library.Count
import ConcretID.Ems.Returns
import ConcretID.Ems.Carriage
import ConcretID.Ems.Reliability
import ConcretID.Com.Types
import ConcretID.Com.RidTable
import ConcretID.Com.IpTable
import ConcretID.Com.Node
import ConcretID.Com.Command
import ConcretID.Com.Handler
import ConcretID.Com.Effects
import ConcretID.Com.Reaction
import ConcretID.Com.Mesh
import ConcretID.Com.Acks
import ConcretID.Com.Slots
import ConcretID.Com.Retries
import ConcretID.Com.Text
import ConcretID.Com.Network
import ConcretID.Com.Flooding
import ConcretID.Com.Discovery
import ConcretID.Library.Blocks
import ConcretID.Library.Duplex
import ConcretID.Flasher.Comunicacao
import ConcretID.Flasher.Device
import ConcretID.Flasher.Host
import ConcretID.Flasher.Serving
import ConcretID.Flasher.Session
import ConcretID.Flasher.Programming
import ConcretID.Flasher.Verification
import ConcretID.Flasher.Upload
import ConcretID.Ems.Routes.Promotion
import ConcretID.Ems.RidMemory
import ConcretID.Ems.Occupation
import ConcretID.Edna.Opening
import ConcretID.Projetao.Provenance
import ConcretID.Rfid.Responses
import ConcretID.Library.Line
import ConcretID.Flasher.Frames
import ConcretID.Ems.Ageing
import ConcretID.Ems.Conveyance
import ConcretID.Ems.Delivery
import ConcretID.Library.Crc
import ConcretID.Checksum
import ConcretID.Flasher.Bounds
import ConcretID.Library.Fifo
import ConcretID.Com.Addresses
import ConcretID.Com.Lifetime
import ConcretID.Com.ReverseRoutes
import ConcretID.Library.Numeral
import ConcretID.Ems.Numerals
import ConcretID.Library.Carry
import ConcretID.Ems.Names
import ConcretID.Ems.InPlace
import ConcretID.Ems.CommandQueue
import ConcretID.Ems.Writes
import ConcretID.Ems.Bounds
import ConcretID.Com.Malformed
import ConcretID.Ems.AddressText
import ConcretID.Projetao.Degrees
import ConcretID.DemoDay.Debounce
import ConcretID.Library.Split
import ConcretID.Raspberry.ServerRasp
import ConcretID.Flasher.Polling
import ConcretID.Library.Records
import ConcretID.Rfid.Inventory
import ConcretID.Rfid.ResponseBounds
import ConcretID.Rfid.CommandBounds
import ConcretID.Rfid.Rejections
import ConcretID.Projetao.Sentences
import ConcretID.Projetao.Steps
import ConcretID.Projetao.Acceptance
import ConcretID.Flasher.ModelDevice
import ConcretID.Flasher.Exchanges
import ConcretID.Edna.Mobile
import ConcretID.Ems.Authorship
import ConcretID.Ems.Naming
import ConcretID.Ems.Resolution
import ConcretID.Projetao.Records
import ConcretID.Projetao.Lines
import ConcretID.Projetao.Decimals
import ConcretID.Projetao.Reports
import ConcretID.Projetao.Reception
import ConcretID.Projetao.Clock
import ConcretID.Library.Buffer
import ConcretID.Projetao.Uart
import ConcretID.Rfid.Answers
