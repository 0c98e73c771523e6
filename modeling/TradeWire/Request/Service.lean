import TradeWire.Request.Plan

/-!
# Requests about the service itself

Display groups, authentication, the server's clock and log, and the message that starts a session.
-/

namespace TradeWire.Plan

/-! ## Display groups -/

/-- What servers without display groups are missing. -/
def needsGroups (id : Int) (request : String) : Check :=
  .needs Feature.linking id (" It does not support " ++ request ++ " request.")

def displayGroups (id : Int) : Plan where
  kind := .queryDisplayGroups
  subject := id
  checks := [needsGroups id "queryDisplayGroups"]
  steps := [.always [.int 1, .int id]]

def subscribeGroup (id group : Int) : Plan where
  kind := .subscribeToGroupEvents
  subject := id
  checks := [needsGroups id "subscribeToGroupEvents"]
  steps := [.always [.int 1, .int id, .int group]]

def updateGroup (id : Int) (contractInfo : Label) : Plan where
  kind := .updateDisplayGroup
  subject := id
  checks := [needsGroups id "updateDisplayGroup"]
  steps := [.always [.int 1, .int id, contractInfo.field]]

def unsubscribeGroup (id : Int) : Plan where
  kind := .unsubscribeFromGroupEvents
  subject := id
  checks := [needsGroups id "unsubscribeFromGroupEvents"]
  steps := [.always [.int 1, .int id]]

/-! ## Authentication -/

/-- Authentication must have been announced when the connection was made. -/
def needsIntent (announced : Bool) : Check where
  span := .always
  problem? :=
    if announced then none
    else some (.refused ⟨noId, .badMessage, " Intent to authenticate needs to be expressed " ++
      "during initial connect request."⟩)

def needsVerification : Check :=
  .needs Feature.linking noId " It does not support verification request."

def needsVerificationMessage : Check :=
  .needs Feature.linking noId " It does not support verification message sending."

def verify (announced : Bool) (name version : Label) : Plan where
  kind := .verifyRequest
  checks := [needsVerification, needsIntent announced]
  steps := [.always [.int 1, name.field, version.field]]

def verifyMessage (data : Label) : Plan where
  kind := .verifyMessage
  checks := [needsVerificationMessage]
  steps := [.always [.int 1, data.field]]

def authenticate (announced : Bool) (name version key : Label) : Plan where
  kind := .verifyAndAuthRequest
  checks := [needsVerification, needsIntent announced]
  steps := [.always [.int 1, name.field, version.field, key.field]]

def authenticateMessage (data response : Label) : Plan where
  kind := .verifyAndAuthMessage
  checks := [needsVerificationMessage]
  steps := [.always [.int 1, data.field, response.field]]

/-! ## The server -/

def currentTime : Plan where
  kind := .reqCurrentTime
  steps := [.always [.int 1]]

/-- Sets how much the server writes to its log. -/
def logLevel (level : Int) : Plan where
  kind := .setServerLoglevel
  steps := [.always [.int 1, .int level]]

/-- The first message of a session. -/
def start (clientId : Int) (capabilities : Label) : Plan where
  kind := .startApi
  steps := [
    .always [.int 2, .int clientId],
    .since Feature.optionalCapabilities [capabilities.field]]

end TradeWire.Plan
