import TradeWire.Request.Plan

/-!
# Requests about open orders

Cancelling, listing and binding orders that are already placed.
-/

namespace TradeWire.Plan

def cancelOrder (id : Int) : Plan where
  kind := .cancelOrder
  subject := id
  steps := [.always [.int 1, .int id]]

def cancelAll : Plan where
  kind := .reqGlobalCancel
  checks := [.needs Feature.reqGlobalCancel noId " It does not support globalCancel requests."]
  steps := [.always [.int 1]]

def openOrders : Plan where
  kind := .reqOpenOrders
  steps := [.always [.int 1]]

/-- Binds orders that are placed by hand to this client. -/
def bindOpenOrders (bind : Bool) : Plan where
  kind := .reqAutoOpenOrders
  steps := [.always [.int 1, .flag bind]]

def allOpenOrders : Plan where
  kind := .reqAllOpenOrders
  steps := [.always [.int 1]]

/-- Asks for the next order id that may be used. -/
def orderIds (count : Int) : Plan where
  kind := .reqIds
  steps := [.always [.int 1, .int count]]

def completedOrders (apiOnly : Bool) : Plan where
  kind := .reqCompletedOrders
  checks := [.needs Feature.completedOrders noId
    " It does not support completed orders requests."]
  steps := [.always [.flag apiOnly]]

end TradeWire.Plan
