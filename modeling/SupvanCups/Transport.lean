import SupvanCups.InteractionScript
import SupvanCups.PrinterStatus

/-!
# Transports

The print logic talks to the printer through a transport: four calls that
exchange bytes, and pure parsers for the replies.  The serial links and USB
differ in their framing and in their parsers only.  Here a transport is its
parsers; its calls are the requests of a script, so that one proof about a
script covers every link and every device behind it.
-/

namespace SupvanCups

inductive ProtoError
  | invalidResponse (message : String)
  | compression (message : String)
  | invalidParam (message : String)
  | timeout (waitedFor : String)
  | io (message : String)
  | ble (message : String)
  deriving DecidableEq

def ProtoError.display : ProtoError → String
  | .invalidResponse message => "invalid response: " ++ message
  | .compression message => "compression failed: " ++ message
  | .invalidParam message => "invalid parameter: " ++ message
  | .timeout waitedFor => "timed out waiting for " ++ waitedFor
  | .io message => "I/O error: " ++ message
  | .ble message => "BLE error: " ++ message

/-- The calls of a transport that exchange bytes with the printer. -/
inductive TransportCall
  | sendCmd (cmd : U8) (param : U16)
  | sendCmdTwo (cmd : U8) (param1 param2 : U16)
  | sendBulkHeader (compressedLen : U16) (numPackets : Nat)
  | sendBulkData (data : Bytes) (readFinalResponse : Bool)
  deriving DecidableEq

/-- What a call returns: an error, no response in time, or response bytes. -/
abbrev TransportReply := Except ProtoError (Option Bytes)

/-- A printer operation: a script of transport calls that can fail. -/
abbrev Operation (α : Type) := Session TransportCall TransportReply ProtoError α

abbrev WireHistory := History TransportCall TransportReply

/-- A printer, as any function from what was exchanged to the next reply. -/
abbrev PrinterDevice := Device TransportCall TransportReply

/-- The pure part of a transport. -/
structure Transport where
  parseStatusResponse : Bytes → Option PrinterStatus
  parseMaterialResponse : Bytes → Option MaterialInfo
  validateResponse : Bytes → U8 → Bool

def sppCodec : Transport where
  parseStatusResponse := parseStatus
  parseMaterialResponse := parseMaterial
  validateResponse := validateResponse

/-- USB does not echo the command, so any response that is not empty will
do. -/
def usbHidTransport : Transport where
  parseStatusResponse := parseUsbStatus
  parseMaterialResponse := parseUsbMaterial
  validateResponse := fun resp _ => !resp.isEmpty

end SupvanCups
