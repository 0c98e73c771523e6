import TradeWire.Text.Quoted

/-!
# Notices

The problems that are reported under a fixed code, each with a message to which detail is added.
-/

namespace TradeWire

/-- A problem with a fixed code and message. -/
structure Notice where
  code : Int
  message : String
  deriving DecidableEq

namespace Notice

/-- The message followed by some detail. -/
def text (notice : Notice) (detail : String := "") : String := notice.message ++ detail

/-- The notice on one line. -/
def shown (notice : Notice) : String :=
  "TwsError(" ++ toString notice.code ++ ", " ++ Text.quoted notice.message ++ ")"

def alreadyConnected : Notice := ⟨501, "Already connected."⟩

def connectFailed : Notice := ⟨502,
  "Couldn't connect to TWS. Confirm that \"Enable ActiveX and Socket EClients\" is " ++
  "enabled and connection port is the same as \"Socket Port\" on the TWS " ++
  "\"Edit->Global Configuration...->API->Settings\" menu. Live Trading ports: TWS: " ++
  "7496; IB Gateway: 4001. Simulated Trading ports for new installations of " ++
  "version 954.1 or newer:  TWS: 7497; IB Gateway: 4002"⟩

def serverTooOld : Notice := ⟨503, "The TWS is out of date and must be upgraded."⟩

def notConnected : Notice := ⟨504, "Not connected"⟩

def unknownMessage : Notice := ⟨505, "Fatal Error: Unknown message id."⟩

def unsupported : Notice := ⟨506, "Unsupported version"⟩

def badLength : Notice := ⟨507, "Bad message length"⟩

def badMessage : Notice := ⟨508, "Bad message"⟩

def socketFailed : Notice := ⟨509, "Exception caught while reading socket - "⟩

def noSocket : Notice := ⟨520, "Failed to create socket"⟩

def tlsFailed : Notice := ⟨530, "SSL specific error: "⟩

/-- All notices in the order of their codes. -/
def all : List Notice := [
  alreadyConnected, connectFailed, serverTooOld, notConnected, unknownMessage, unsupported,
  badLength, badMessage, socketFailed, noSocket, tlsFailed]

end Notice

end TradeWire
