import BindTrace.Agent.Failure

/-!
# The queue of decoded records

An unbounded queue of records between those who read the ring and the one who logs.  Senders can be
cloned and let go one by one.  Sending fails once the receiver is gone; receiving fails once nothing
waits and no sender is left.
-/

namespace BindTrace

structure RecordQueue where
  waiting : List Record := []
  -- For each sender there ever was, whether it is still there.
  senders : List Bool := [true]
  receiver : Bool := true

namespace RecordQueue

inductive Received where
  | record (record : Record)
  | pending
  | closed (failure : AgentFailure)

def send (queue : RecordQueue) (record : Record) : Except AgentFailure RecordQueue :=
  if queue.receiver then
    .ok { queue with waiting := queue.waiting ++ [record] }
  else
    .error .receiverGone

def receive (queue : RecordQueue) : Received × RecordQueue :=
  match queue.waiting with
  | record :: rest => (.record record, { queue with waiting := rest })
  | [] =>
      if queue.senders.any id then (.pending, queue)
      else (.closed .sendersGone, queue)

def receiveAll (queue : RecordQueue) : List Record × RecordQueue :=
  (queue.waiting, { queue with waiting := [] })

def cloneSender (queue : RecordQueue) : Nat × RecordQueue :=
  (queue.senders.length, { queue with senders := queue.senders ++ [true] })

def dropSender (queue : RecordQueue) (sender : Nat) : Bool × RecordQueue :=
  (queue.senders[sender]?.getD false, { queue with senders := queue.senders.set sender false })

/-- Lets the receiver go, with all that waits for it, and tells whether it was still there. -/
def dropReceiver (queue : RecordQueue) : Bool × RecordQueue :=
  (queue.receiver, { queue with waiting := [], receiver := false })

end RecordQueue

end BindTrace
