import TradeWire.Message.Basic

/-!
# Messages about the service itself

News, fundamental data, the clock, problems, authentication, and display groups.
-/

namespace TradeWire.Message

open Reading

/-! ## News and fundamental data -/

def newsBulletin : Reading (List Event) := do
  skip
  return [.newsBulletin (← int) (← int) (← next) (← next)]

def newsProvider : Reading NewsProvider := do
  let code ← text
  let name ← text
  return { code, name }

def newsProviders : Reading (List Event) := do
  return [.newsProviders (← listOf newsProvider)]

def newsArticle : Reading (List Event) := do
  return [.newsArticle (← int) (← int) (← next)]

def historicalNews : Reading (List Event) := do
  return [.historicalNews (← int) (← next) (← next) (← next) (← next)]

def historicalNewsEnd : Reading (List Event) := do
  return [.historicalNewsEnd (← int) (← flag)]

def fundamentalData : Reading (List Event) := do
  skip
  return [.fundamentalData (← int) (← next)]

/-! ## The server -/

def currentTime : Reading (List Event) := do
  skip
  return [.currentTime (← long)]

def problem : Reading (List Event) := do
  skip
  return [.error (← int) (← int) (← next)]

/-! ## Authentication -/

/-- Whether something succeeded, which is spelled out. -/
def success : Reading Bool := do return (← next) == "true"

def verifyMessage : Reading (List Event) := do
  skip
  return [.verifyMessage (← next)]

def verifyCompleted : Reading (List Event) := do
  skip
  return [.verifyCompleted (← success) (← next)]

def verifyAndAuthMessage : Reading (List Event) := do
  skip
  return [.verifyAndAuthMessage (← next) (← next)]

def verifyAndAuthCompleted : Reading (List Event) := do
  skip
  return [.verifyAndAuthCompleted (← success) (← next)]

/-! ## Display groups -/

def displayGroupList : Reading (List Event) := do
  skip
  return [.displayGroupList (← int) (← next)]

def displayGroupUpdated : Reading (List Event) := do
  skip
  return [.displayGroupUpdated (← int) (← next)]

end TradeWire.Message
