import PdfText.Bytes
import PdfText.Error.Io

/-!
# Deliveries

Bytes may arrive in pieces. Each time more of them are asked for, there is a piece, or an
interruption, or a failure; an empty piece says that there are no more. A delivery is the list of
these answers. Interruptions are passed over, and any other failure takes the place of all that
came before it.

## Main definitions

* `Delivery` — the answers to one request after the other
* `Delivery.contents` — all bytes of a delivery
-/

namespace PdfText

/-- Whether a failure says no more than that one should ask again. -/
def IoError.isInterruption : IoError → Bool
  | system code => code == 4
  | plain kind => kind == .interrupted
  | described kind _ => kind == .interrupted

/-- The answers to requests for bytes, one after the other. Where the list ends, no bytes are
left. -/
abbrev Delivery := List (Except IoError Bytes)

namespace Delivery

/-- All bytes that are delivered before the end, or the first failure that is no interruption. -/
def contents : Delivery → Except IoError Bytes
  | [] => .ok []
  | .ok [] :: _ => .ok []
  | .ok piece :: rest => (piece ++ ·) <$> contents rest
  | .error error :: rest => if error.isInterruption then contents rest else .error error

end Delivery

end PdfText
