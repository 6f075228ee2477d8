import DevicePanel.Settings.Json
import DevicePanel.Dashboard.Live
import DevicePanel.Dashboard.Picture
import DevicePanel.Dashboard.Start
import DevicePanel.Main
import DevicePanel.Proofs.Switchboard.Arrival
import DevicePanel.Proofs.Switchboard.LastCommand
import DevicePanel.Proofs.Switchboard.Newest
import DevicePanel.Proofs.Switchboard.Replay
import DevicePanel.Proofs.Switchboard.SupersededAnswer
import DevicePanel.Proofs.Board.Changes
import DevicePanel.Proofs.Board.Groups
import DevicePanel.Proofs.Json.Records
import DevicePanel.Proofs.Hub.Rereading
import DevicePanel.Proofs.Hub.Documents
import DevicePanel.Proofs.Hub.Exchange
import DevicePanel.Proofs.Hub.Loading
import DevicePanel.Proofs.Switchboard.Alone
import DevicePanel.Proofs.Hub.Commanding
import DevicePanel.Proofs.Switchboard.Consuming
import DevicePanel.Proofs.Dashboard.UpToDate
import DevicePanel.Proofs.Dashboard.Living
import DevicePanel.Proofs.Console.Upkeep
import DevicePanel.Proofs.Settings.Connecting
import DevicePanel.Proofs.Settings.Strays
import DevicePanel.Proofs.Console.Masking
import DevicePanel.Proofs.Console.Commanding
import DevicePanel.Proofs.Listing.Ties
import DevicePanel.Proofs.Board.Filling
import DevicePanel.Proofs.Switchboard.Independent
import DevicePanel.Proofs.Hub.Addressing
import DevicePanel.Proofs.Hub.Bodies
import DevicePanel.Proofs.Settings.TextFields
import DevicePanel.Proofs.Hub.Integers
import DevicePanel.Proofs.Console.Overriding
import DevicePanel.Proofs.Console.Grouping
import DevicePanel.Proofs.Board.Places
import DevicePanel.Proofs.Dashboard.Cursor
import DevicePanel.Proofs.Console.Printing
import DevicePanel.Proofs.Dashboard.Overlays
import DevicePanel.Proofs.Settings.Addresses
