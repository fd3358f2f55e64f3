import PdfText.Proofs.Entrances

/-!
# What a delivery comes to

Bytes that arrive in pieces are asked for until there is an answer after which nothing is asked for
any more: an empty piece, or a failure that is no interruption. The first such answer decides. If it
is a failure, it is the outcome, and the bytes before it are looked at by nobody. If it is an empty
piece, or if there is none, all pieces before it are put together, and the outcome is that of the
bytes at hand. How the bytes were cut, and how often the answers were interruptions, is forgotten.

## Main definitions

* `Delivery.goesOn` — the answers after which one asks again
* `Delivery.ending?` — the first answer after which one does not
* `Delivery.joined` — all bytes before it

## Main results

* `Delivery.contents_eq` — the contents of a delivery by its ending
* `Delivery.ending_decides` — what comes of reading a document from a delivery
-/

namespace PdfText.Delivery

/-- Whether more is asked for after an answer: after a piece with bytes in it, and after an
interruption. -/
def goesOn : Except IoError Bytes → Bool
  | .ok piece => !piece.isEmpty
  | .error error => error.isInterruption

/-- The bytes in an answer. -/
def piece : Except IoError Bytes → Bytes
  | .ok piece => piece
  | .error _ => []

/-- The first answer after which no more is asked for. -/
def ending? (delivery : Delivery) : Option (Except IoError Bytes) :=
  delivery.find? fun answer => !goesOn answer

/-- All bytes before that answer. -/
def joined (delivery : Delivery) : Bytes := (delivery.takeWhile goesOn).flatMap piece

variable {answer : Except IoError Bytes}

/-- An answer after which more is asked for adds its bytes to those that follow. -/
theorem contents_cons_of_goesOn (on : goesOn answer) (rest : Delivery) :
    contents (answer :: rest) = (contents rest).map (piece answer ++ ·) := by
  match answer with
  | .ok [] => cases on
  | .ok (b :: more) => rfl
  | .error error =>
    have again : error.isInterruption = true := on
    rw [contents, if_pos again]
    cases contents rest <;> rfl

/-- Any other answer is the last one that is looked at. -/
theorem contents_cons_of_not_goesOn (ended : goesOn answer = false) (rest : Delivery) :
    contents (answer :: rest) = answer := by
  match answer with
  | .ok [] => rfl
  | .ok (b :: more) => cases ended
  | .error error =>
    have failed : error.isInterruption = false := ended
    rw [contents, failed, if_neg Bool.false_ne_true]

/-- The contents of a delivery are all bytes before its ending, unless that is a failure. -/
theorem contents_eq (delivery : Delivery) :
    delivery.contents =
      match delivery.ending? with
      | some (.error failure) => .error failure
      | _ => .ok delivery.joined := by
  -- By induction on the answers: one that goes on adds its piece, and any other is the ending.
  induction delivery with
  | nil => rfl
  | cons answer rest ih =>
    cases on : goesOn answer with
    | false =>
      rw [contents_cons_of_not_goesOn on, ending?, List.find?_cons_of_pos (by simp [on]), joined,
        List.takeWhile_cons_of_neg (by simp [on])]
      match answer, on with
      | .ok [], _ => rfl
      | .error failure, _ => rfl
    | true =>
      have sameEnding : ending? (answer :: rest) = ending? rest :=
        List.find?_cons_of_neg (by simp [on])
      have more : joined (answer :: rest) = piece answer ++ joined rest := by
        rw [joined, List.takeWhile_cons_of_pos on, List.flatMap_cons, joined]
      rw [contents_cons_of_goesOn on, ih, sameEnding, more]
      split <;> rfl

/-- A failure that ends a delivery is no interruption. -/
theorem not_isInterruption_of_ending {delivery : Delivery} {failure : IoError}
    (failed : delivery.ending? = some (.error failure)) : failure.isInterruption = false := by
  simpa [goesOn] using List.find?_some failed

/-- What comes of a delivery is decided by the first answer that is neither a piece with bytes in it
nor an interruption. If this is a failure, it is reported, whatever has been delivered before it and
whatever the password. Otherwise the document and its text are those of the bytes before it, put
together. -/
theorem ending_decides (delivery : Delivery) :
    match delivery.ending? with
    | some (.error failure) =>
      failure.isInterruption = false ∧
        ∀ password, Document.ofDelivery delivery password = .error (.io failure) ∧
          ({ password } : Extractor).fromDelivery delivery = .error (.cause (.io failure))
    | _ =>
      ∀ password, Document.ofDelivery delivery password = Document.load delivery.joined password ∧
        ({ password } : Extractor).fromDelivery delivery =
          ({ password } : Extractor).fromBytes delivery.joined := by
  have come := delivery.contents_eq
  split
  next failure failed =>
    rw [failed] at come
    refine ⟨not_isInterruption_of_ending failed, fun password => ⟨?_, ?_⟩⟩
    · rw [Document.ofDelivery, come]
      rfl
    · rw [Extractor.fromDelivery_eq, come]
      rfl
  next ended =>
    have joined : delivery.contents = .ok delivery.joined := by
      rw [come]
      split
      · next failure failed => exact absurd failed (ended failure)
      · rfl
    refine fun password => ⟨?_, ?_⟩
    · rw [Document.ofDelivery, joined]
      rfl
    · rw [Extractor.fromDelivery_eq, joined]
      rfl

end PdfText.Delivery
