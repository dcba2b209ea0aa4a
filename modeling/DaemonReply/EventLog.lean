import DaemonReply.Record.Message

/-!
# Paging through the event log

The daemon numbers its messages and answers only one kind of question: which messages come after
a given number. A **page** of at most about `number` messages older than a given one is therefore
fetched by asking with a lower bound, computed to leave a little slack, and dropping from the
answer what is not older. Without a message to start from, the newest messages are fetched; only
then does the daemon have to be asked how many there are.

The daemon is a `Source`: two questions that may each change its state, since it goes on logging
in the meantime.
-/

namespace DaemonReply

open Value

/-- The difference of two integers, or the nearest limit of 32 bits: the exact difference, clamped
once. -/
def Value.saturatingSub (a b : Int32) : Int32 :=
  Int32.ofIntClamp (a.toInt - b.toInt)

namespace EventLog

/-- The two questions that a daemon answers about its event log; `σ` is the state of the daemon
and of the way to it. -/
structure Source (σ : Type) where
  /-- How many messages there are. -/
  count : StateM σ Int32
  /-- The reply that holds every message with a number above the given one. -/
  replyAfter : Int32 → StateM σ String

/-! ### The lower bound -/

/-- The bound for messages older than number `seqNo`. -/
def olderBound (seqNo number : Int32) : Int32 :=
  max (saturatingSub (saturatingSub seqNo number) 2) 0

/-- The bound for the newest of `count` messages. -/
def newestBound (count number : Int32) : Int32 :=
  max (saturatingSub (saturatingSub count number) 1) 0

/-- The bound to ask with for a page of `number` messages. A `seqNo` of zero or less asks for the
newest page, and only then is the count consulted. -/
def lowerBound {m : Type → Type} [Monad m] (seqNo number : Int32) (count : m Int32) : m Int32 :=
  if 0 < seqNo then pure (olderBound seqNo number)
  else do return newestBound (← count) number

theorem lowerBound_of_pos {m : Type → Type} [Monad m] {seqNo : Int32} (number : Int32)
    (count : m Int32) (h : 0 < seqNo) :
    lowerBound seqNo number count = pure (olderBound seqNo number) :=
  if_pos h

/-! ### Pages -/

/-- The messages of a page: those of the reply that are older than `seqNo`, if it is positive. -/
def select (seqNo : Int32) (messages : List Message) : List Message :=
  if 0 < seqNo then messages.filter (·.sequenceNumber < seqNo) else messages

/-- What is reported about a page that is not empty. -/
def pageReport (bound : Int32) (messages : List Message) : List Diagnostic :=
  match messages.head?, messages.getLast? with
  | some first, some last =>
    [.eventLogPage messages.length bound first.sequenceNumber last.sequenceNumber]
  | _, _ => []

/-- The page in a reply that was asked for with a bound. -/
def readPage (seqNo bound : Int32) (reply : String) : Logged (List Message) :=
  let parsed := Message.parse reply
  let messages := select seqNo parsed.value
  ⟨messages, parsed.log ++ pageReport bound messages⟩

/-- Fetches about `number` messages older than `seqNo`, or the newest ones if `seqNo` is zero or
less, in the order of the reply. -/
def fetchPage {σ : Type} (source : Source σ) (seqNo number : Int32) :
    StateM σ (Logged (List Message)) := do
  let bound ← lowerBound seqNo number source.count
  let reply ← source.replyAfter bound
  return readPage seqNo bound reply

end EventLog

end DaemonReply
