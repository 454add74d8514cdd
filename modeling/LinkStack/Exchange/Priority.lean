/-!
Scheduling priorities, from 0 to 31; higher is more urgent. The band above
`highest` belongs to the exchange of descriptors and to queries.
-/

namespace LinkStack.Exchange

abbrev Priority := Nat

namespace Priority

/-- Send the descriptor. -/
def description : Priority := 31

/-- Send the descriptor while the whole catalog is loaded. -/
def descriptionLow : Priority := 30

/-- Release a query and send the arguments. -/
def unlockArgs : Priority := 29

/-- Ask the peer for its arguments. -/
def queryArgs : Priority := 27

/-- The reply to a query has arrived. -/
def queryWait : Priority := 26

/-- Send the arguments and wait for the peer to echo them. -/
def updateArgs : Priority := 25

/-- Send arguments that the peer asked for. -/
def highest : Priority := 15

def low : Priority := 1

/-- Not queued. -/
def clear : Priority := 0

def max : Priority := 31

/-- Whether a message that waits for a reply can still be queued so. -/
def passesLock (p : Priority) : Bool := p = description || p = descriptionLow || p = unlockArgs

end Priority

end LinkStack.Exchange
