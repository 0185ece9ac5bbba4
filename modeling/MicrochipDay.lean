import MicrochipDay.MqttClient.Outgoing
import MicrochipDay.MqttClient.Segmentation
import MicrochipDay.MqttClient.MemorySafety
import MicrochipDay.MqttClient.Delivery
import MicrochipDay.Umqtt.CircHistory
import MicrochipDay.Umqtt.LengthCodec
import MicrochipDay.Cloud.Publish
import MicrochipDay.Cloud.EccVerification
import MicrochipDay.Cloud.SocketReceive
import MicrochipDay.Cloud.EventSlot
import MicrochipDay.Cloud.Progress
import MicrochipDay.Cloud.Subscription
import MicrochipDay.Cloud.Stall
import MicrochipDay.Cloud.Reset
import MicrochipDay.Cloud.Sockets
import MicrochipDay.Cloud.ShadowDelta
import MicrochipDay.Cloud.Telemetry
import MicrochipDay.Cloud.EccSigning
import MicrochipDay.Cloud.StartUp
import MicrochipDay.Cloud.KeepsListening
import MicrochipDay.Scheduler.Interrupt
import MicrochipDay.Scheduler.Deadlines
import MicrochipDay.Scheduler.TimeBase
import MicrochipDay.Gateway.Command
import MicrochipDay.Gateway.SerialReader
import MicrochipDay.Gateway.Blame
import MicrochipDay.Gateway.Agreement
import MicrochipDay.I2c.RegisterRead
import MicrochipDay.I2c.Exclusive
import MicrochipDay.Scheduler.Flush
import MicrochipDay.Provisioning.CertElements
import MicrochipDay.Provisioning.ThingName
import MicrochipDay.Provisioning.SerialNumber
import MicrochipDay.Provisioning.KitProtocol
import MicrochipDay.Provisioning.KitCommands
import MicrochipDay.Provisioning.KitApp
import MicrochipDay.Provisioning.Validity
import MicrochipDay.Usart.Receive
import MicrochipDay.Winc.Sessions
import MicrochipDay.Winc.Acknowledge
import MicrochipDay.Crypto.Sha256
import MicrochipDay.Crypto.Sha1
import MicrochipDay.Provisioning.DateFormats
import MicrochipDay.Provisioning.DerValues
