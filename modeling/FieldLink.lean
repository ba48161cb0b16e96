import FieldLink.Wire
import FieldLink.Serial.Text
import FieldLink.Modbus.Operation
import FieldLink.Mqtt.Operation
import FieldLink.Proofs.History
import FieldLink.Proofs.Line.Traffic
import FieldLink.Proofs.Line.Writes
import FieldLink.Proofs.Line.Failure
import FieldLink.Proofs.Mqtt.ControlPacket
import FieldLink.Proofs.Mqtt.Reception
import FieldLink.Proofs.Mqtt.Identifier
import FieldLink.Proofs.Mqtt.Assembly
import FieldLink.Proofs.Mqtt.LengthField
import FieldLink.Proofs.Mqtt.Draft
import FieldLink.Proofs.Mqtt.Outbound
import FieldLink.Proofs.Mqtt.Sending
import FieldLink.Proofs.Mqtt.Polling
import FieldLink.Proofs.Mqtt.History
import FieldLink.Proofs.Mqtt.Sound
import FieldLink.Proofs.Mqtt.Outstanding
import FieldLink.Proofs.Mqtt.Repetition
import FieldLink.Proofs.Line.Delivery
import FieldLink.Proofs.Mqtt.Framing
import FieldLink.Proofs.Mqtt.Dispatch
import FieldLink.Proofs.Mqtt.Conversation
import FieldLink.Proofs.Mqtt.Agreement
import FieldLink.Proofs.Mqtt.Breakdown
import FieldLink.Proofs.Modbus.Bits
import FieldLink.Proofs.Modbus.Packing
import FieldLink.Proofs.Modbus.Register
import FieldLink.Proofs.Modbus.SerialFrame
import FieldLink.Proofs.Modbus.Detection
import FieldLink.Proofs.Modbus.Remainder
import FieldLink.Proofs.Modbus.Reception
import FieldLink.Proofs.Modbus.Calls
import FieldLink.Proofs.Modbus.History
import FieldLink.Proofs.Modbus.Correlation
import FieldLink.Proofs.Modbus.Answer
import FieldLink.Proofs.Modbus.Values
import FieldLink.Proofs.Modbus.Decoding
import FieldLink.Proofs.Modbus.Breakdown
import FieldLink.Proofs.Line.Custody
import FieldLink.Proofs.Modbus.Custody
import FieldLink.Proofs.Custody
import FieldLink.Proofs.Line.Simulation
import FieldLink.Proofs.Mqtt.Simulation
import FieldLink.Proofs.Modbus.Simulation
import FieldLink.Proofs.Line.Splitting
import FieldLink.Proofs.Line.Completion
import FieldLink.Proofs.Line.Filling
import FieldLink.Proofs.Line.Offering
import FieldLink.Proofs.Splitting
import FieldLink.Proofs.Mqtt.Handshake
import FieldLink.Proofs.Modbus.Recognition
import FieldLink.Proofs.Modbus.Attribution
import FieldLink.Proofs.Modbus.Numbering
import FieldLink.Proofs.Mqtt.Registry
import FieldLink.Proofs.Mqtt.Overdue
import FieldLink.Proofs.Mqtt.Refusal
import FieldLink.Proofs.Modbus.Refusal
import FieldLink.Proofs.Modbus.InStep
import FieldLink.Proofs.Modbus.Rephrasing
import FieldLink.Proofs.Settings.Document
import FieldLink.Proofs.Settings.Value
import FieldLink.Proofs.Settings.Object
import FieldLink.Proofs.Settings.Fields
import FieldLink.Proofs.Serial.Text
import FieldLink.Proofs.Mqtt.Options
import FieldLink.Proofs.Settings.ReadBack
