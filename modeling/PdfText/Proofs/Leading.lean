import PdfText.Proofs.Rereading
import PdfText.Proofs.Words

/-!
# Bytes before the header

A file may have other bytes before its header. The place of the header is looked for twice, and in
two ways: when a file is read as far as its cross-reference table, and when the objects of a locked
document are read again from the same bytes. Both searches lead to the same place, and so offsets
are counted from there both times.

What comes before the header cannot make up a header together with the first bytes of the real one,
since no end of the word that files begin with is also a beginning of it. So what comes before does
not matter, unless the word occurs in it.

## Main definitions

* `Bytes.Unbordered` — no end of a word is a beginning of it
* `Locked.bufferStart` — where the bytes begin from which objects are read again
* `Document.loadFrom` — the document in a file whose objects are read again from there

## Main results

* `Bytes.find?_append_of_unbordered` — a word is found behind bytes that do not hold it
* `Document.loadFrom_eq` — both searches lead to the same document
* `Document.load_leading` — what comes before the header does not matter
-/

namespace PdfText

namespace Bytes

variable {word bytes front rest : Bytes}

/-! ## Two searches -/

/-- The parts of some length, one from each place at which there are enough bytes. -/
def windows (length : Nat) (bytes : Bytes) : List Bytes :=
  (List.range (bytes.length + 1 - length)).map fun place => (bytes.drop place).take length

theorem windows_of_short {length : Nat} (short : bytes.length < length) :
    windows length bytes = [] := by
  rw [windows, show bytes.length + 1 - length = 0 by omega, List.range_zero, List.map_nil]

theorem windows_cons {length : Nat} {b : UInt8} (long : length ≤ bytes.length + 1) :
    windows length (b :: bytes) = (b :: bytes).take length :: windows length bytes := by
  rw [windows, List.length_cons, Nat.succ_sub long, List.range_succ_eq_map, List.map_cons,
    List.map_map]
  rfl

/-- A word that does not occur has no first place. -/
theorem find?_eq_none_of_free (free : ¬ word <:+: bytes) : find? bytes word = none := by
  induction bytes with
  | nil =>
    rw [find?, if_neg]
    rw [List.isEmpty_iff]
    rintro rfl
    exact free List.infix_rfl
  | cons b bytes ih =>
    rw [find?_cons_of_absent fun present => free present.isInfix,
      ih fun held => free (List.infix_cons_iff.mpr (.inr held)), Option.map_none]

theorem free_of_short (short : bytes.length < word.length) : ¬ word <:+: bytes := fun held =>
  absurd held.length_le (by omega)

/-- The first place of a word is that of the first part of its length that is the word. -/
theorem findIdx?_windows (nonempty : word ≠ []) (bytes : Bytes) :
    (windows word.length bytes).findIdx? (· == word) = find? bytes word := by
  have positive := List.length_pos_iff.mpr nonempty
  -- By induction on the bytes: both searches look at the first place and then go on with the next.
  -- They end where fewer bytes are left than the word has.
  induction bytes with
  | nil =>
    rw [windows_of_short (by simpa using positive), find?_eq_none_of_free (free_of_short (by simpa using positive)),
      List.findIdx?_nil]
  | cons b bytes ih =>
    by_cases short : (b :: bytes).length < word.length
    · rw [windows_of_short short, find?_eq_none_of_free (free_of_short short), List.findIdx?_nil]
    · rw [windows_cons (by simpa using short), List.findIdx?_cons, ih]
      by_cases present : word <+: b :: bytes
      · rw [find?_of_present present, if_pos (by simpa using (List.prefix_iff_eq_take.mp present).symm)]
      · rw [find?_cons_of_absent present, if_neg]
        intro same
        exact present (List.prefix_iff_eq_take.mpr (beq_iff_eq.mp same).symm)

/-- There are enough bytes for a word where it is found. -/
theorem le_of_find? {place : Nat} (found : find? bytes word = some place) :
    place + word.length ≤ bytes.length := by
  -- By induction on the bytes: the word stands at their front, or it is found in the rest.
  induction bytes generalizing place with
  | nil =>
    rw [find?] at found
    split at found
    · next empty =>
      cases found
      simp [List.isEmpty_iff.mp empty]
    · cases found
  | cons b bytes ih =>
    by_cases present : word <+: b :: bytes
    · rw [find?_of_present present] at found
      cases found
      simpa using present.length_le
    · rw [find?_cons_of_absent present] at found
      obtain ⟨before, earlier, rfl⟩ := Option.map_eq_some_iff.mp found
      have enough := ih earlier
      rw [List.length_cons]
      omega

/-! ## Words that do not overlap themselves -/

/-- No end of a word is a beginning of it, but the whole word. -/
def Unbordered (word : Bytes) : Prop :=
  ∀ place ∈ List.range word.length, place ≠ 0 → ¬ word.drop place <+: word

instance : Decidable (Unbordered word) := inferInstanceAs (Decidable (∀ _ ∈ _, _))

/-- Where bytes end that do not hold a word, and the word follows, it has its first place: it does
not begin before, as it would overlap itself. -/
theorem find?_append_of_unbordered (unbordered : Unbordered word) (free : ¬ word <:+: front)
    (follows : word <+: rest) : find? (front ++ rest) word = some front.length := by
  induction front with
  | nil => exact find?_of_present follows
  | cons b front ih =>
    have apart : ¬ word <+: b :: (front ++ rest) := by
      intro early
      by_cases inside : word.length ≤ (b :: front).length
      · exact free (List.prefix_of_prefix_length_le early (List.prefix_append _ _) inside).isInfix
      · -- The word goes on behind the seam, so an end of it stands where the whole word does.
        obtain ⟨ending, rfl⟩ : b :: front <+: word :=
          List.prefix_of_prefix_length_le (List.prefix_append (b :: front) rest) early (by omega)
        have behind : ending <+: rest := (List.prefix_append_right_inj (b :: front)).mp early
        refine unbordered (b :: front).length (List.mem_range.mpr (by omega)) (by simp) ?_
        rw [List.drop_left]
        exact List.prefix_of_prefix_length_le behind follows (by simp; omega)
    rw [List.cons_append, find?_cons_of_absent apart,
      ih fun held => free (List.infix_cons_iff.mpr (.inr held))]
    rfl

end Bytes

theorem Layout.unbordered_marker : Bytes.Unbordered marker := by decide

theorem Layout.bytes_of_read {file : Bytes} {layout : Layout} (found : read file = .ok layout) :
    layout.bytes = file.fromFirst marker := by
  simp only [read] at found
  split at found
  · split at found
    · simp only [Except.bind_eq_ok_iff] at found
      obtain ⟨newest, -, entries, -, found⟩ := found
      split at found
      · cases found
      · cases found
        rfl
    · cases found
  · cases found

/-! ## Reading a locked document again -/

/-- Where the bytes begin from which the objects of a locked document are read again. -/
def Locked.bufferStart (file : Bytes) : Nat :=
  ((Bytes.windows Layout.marker.length file).findIdx? (· == Layout.marker)).getD 0

/-- What a file gives, where a locked document will be read again from the header that is found in
the file once more. -/
def Opening.rereadFrom (file : Bytes) : Opening → Opening
  | opened document => .opened document
  | locked shut =>
    let buffer := file.drop (Locked.bufferStart file)
    .locked { shut with layout := { shut.layout with bytes := buffer } }

/-- The document in a file, opened by a password if it needs one, where the header is found once
more before objects are read again. -/
def Document.loadFrom (file : Bytes) (password : Option String) : Except ExtractError Document := do
  ((← (Opening.ofBytes file).mapError .pdf).rereadFrom file).document password

namespace Locked

theorem bufferStart_eq (file : Bytes) :
    bufferStart file = (file.find? Layout.marker).getD 0 := by
  rw [bufferStart, Bytes.findIdx?_windows (by decide)]

/-- The bytes from which objects are read again lie in the file. -/
theorem bufferStart_le (file : Bytes) : bufferStart file ≤ file.length := by
  rw [bufferStart_eq]
  cases found : file.find? Layout.marker with
  | none => exact Nat.zero_le _
  | some place => exact (Nat.le_add_right _ _).trans (Bytes.le_of_find? found)

/-- Objects are read again from the first byte on where no header is found. -/
theorem bufferStart_of_free {file : Bytes} (free : ¬ Layout.marker <:+: file) :
    bufferStart file = 0 := by
  rw [bufferStart_eq, Bytes.find?_eq_none_of_free free, Option.getD_none]

end Locked

/-- Both searches lead to the same bytes, and so a locked document is read again from those that it
was found in. -/
theorem Opening.rereadFrom_eq {file : Bytes} {opening : Opening}
    (found : ofBytes file = .ok opening) : opening.rereadFrom file = opening := by
  rw [ofBytes] at found
  cases read : Layout.read file with
  | error reason => simp [read, Except.map] at found
  | ok layout =>
  obtain rfl : ofLayout layout = opening := by simpa [read, Except.map] using found
  cases given : ofLayout layout with
  | opened document => rfl
  | locked shut =>
    obtain ⟨-, rfl⟩ := eq_of_ofLayout_eq_locked given
    -- The layout keeps the bytes from the header on, and these are the bytes that are found again.
    have same : file.drop (Locked.bufferStart file) = layout.bytes := by
      rw [Layout.bytes_of_read read, Locked.bufferStart_eq, Bytes.fromFirst]
    simp only [rereadFrom, same]
    rfl

/-- Both searches lead to the same document. -/
theorem Document.loadFrom_eq (file : Bytes) (password : Option String) :
    loadFrom file password = load file password := by
  rw [loadFrom, load]
  cases found : Opening.ofBytes file with
  | error reason => rfl
  | ok opening =>
    change (opening.rereadFrom file).document password = opening.document password
    rw [Opening.rereadFrom_eq found]

/-! ## Bytes before the header -/

theorem Layout.fromFirst_append {junk file : Bytes} (starts : marker <+: file)
    (free : ¬ marker <:+: junk) :
    (junk ++ file).fromFirst marker = file.fromFirst marker := by
  rw [Bytes.fromFirst, Bytes.fromFirst, Bytes.find?_of_present starts,
    Bytes.find?_append_of_unbordered unbordered_marker free starts]
  simp

/-- The layout of a file is that of its bytes from the header on. -/
theorem Layout.read_congr {first second : Bytes}
    (same : first.fromFirst marker = second.fromFirst marker) : read first = read second := by
  rw [read, read, same]

/-- What comes before the header does not matter, as long as the word that a header begins with does
not occur in it: with any password, or none, the outcome is the same, be the document locked or not.
In every file the header is found at the same place both times, and that place lies in the file. -/
theorem Document.load_leading {junk file : Bytes} (starts : Layout.marker <+: file)
    (free : ¬ Layout.marker <:+: junk) (password : Option String) :
    load (junk ++ file) password = load file password ∧
    loadFrom (junk ++ file) password = loadFrom file password ∧
    Locked.bufferStart (junk ++ file) = junk.length ∧
    ∀ other : Bytes,
      loadFrom other password = load other password ∧
      Locked.bufferStart other ≤ other.length ∧
      (¬ Layout.marker <:+: other ∨ other.length < 5 → Locked.bufferStart other = 0) := by
  have same : load (junk ++ file) password = load file password := by
    rw [load, load, Opening.ofBytes, Opening.ofBytes,
      Layout.read_congr (Layout.fromFirst_append starts free)]
  refine ⟨same, ?_, ?_, fun other => ⟨loadFrom_eq other password, Locked.bufferStart_le other, ?_⟩⟩
  · rw [loadFrom_eq, loadFrom_eq, same]
  · rw [Locked.bufferStart_eq,
      Bytes.find?_append_of_unbordered Layout.unbordered_marker free starts, Option.getD_some]
  · rintro (absent | short)
    · exact Locked.bufferStart_of_free absent
    · exact Locked.bufferStart_of_free (Bytes.free_of_short short)

/-- An encrypted file with other bytes before it, the last of which begin the word, gives its one
page. -/
theorem Document.load_packedFile_leading :
    load (ascii "%%PDF %PDF" ++ packedFile "ObjStm" "4 0 obj\n") none =
      load (packedFile "ObjStm" "4 0 obj\n") none ∧
    (load (packedFile "ObjStm" "4 0 obj\n") none).toOption.map pageCount = some 1 :=
  ⟨(load_leading (by decide +kernel) (by decide +kernel) none).1, by decide +kernel⟩

end PdfText
