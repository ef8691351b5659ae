import RxSteering.Classifier

/-!
What a dispatcher writes to its journal: one record for each change of its sockets and bindings,
none for a frame.
-/
namespace RxSteering

open Text

inductive Level where
  | debug
  | info
  | warn
  deriving DecidableEq, Repr

def Level.text : Level → String
  | debug => "DEBUG"
  | info => "INFO"
  | warn => "WARN"

inductive Record where
  | started (capacity : UInt32) (miss : MissPolicy)
  | registered (handle : SocketHandle)
  | unregistered (handle : SocketHandle)
  | bound (queue : QueueId) (handle : SocketHandle) (previous : Option SocketHandle)
  | unbound (queue : QueueId) (handle : SocketHandle)
  /-- the queue was unbound because its socket is gone -/
  | abandoned (queue : QueueId) (handle : SocketHandle)
  | notAbandoned (queue : QueueId) (handle : SocketHandle) (error : Error)
  deriving DecidableEq, Repr

namespace Record

def level : Record → Level
  | started .. => .info
  | registered _ => .debug
  | unregistered _ => .debug
  | bound .. => .info
  | unbound .. => .info
  | abandoned .. => .debug
  | notAbandoned .. => .warn

def text : Record → String
  | started capacity miss =>
    s!"dispatcher up: {capacity.toNat} queue slots, miss policy {miss.text}"
  | registered handle => s!"registered socket {handle.text}"
  | unregistered handle => s!"unregistered socket {handle.text}"
  | bound queue handle previous =>
    s!"queue {queue.text} -> socket {handle.text} (was {inspect previous})"
  | unbound queue handle => s!"queue {queue.text} unbound from socket {handle.text}"
  | abandoned queue handle => s!"queue {queue.text} unbound from dead socket {handle.text}"
  | notAbandoned queue handle error =>
    s!"unbinding queue {queue.text} from dead socket {handle.text}: {error.message}"

def line (record : Record) : String := record.level.text ++ " " ++ record.text

end Record
end RxSteering
