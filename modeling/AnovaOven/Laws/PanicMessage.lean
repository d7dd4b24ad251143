import AnovaOven.Laws.ResetReasons

/-!
# Laws of the panic's message

A panic's message comes in pieces, and the writer cuts its bytes where the buffer ends, maybe within a
character; the boot that follows reads the text that is whole in them. The pieces written are the first bytes
of the message, however it was split (`Wrote.writeStr`), so what is read is the longest text that fits
(`message_kept`).
-/

namespace AnovaOven

open JsonText

/-! ## Writing -/

/-- The bytes that are written follow those before. -/
theorem writeBytes_take (buf : Vector UInt8 msgBufSize) (pos : Nat) (bytes : Bytes)
    (fits : pos + bytes.length ≤ msgBufSize) :
    (writeBytes buf pos bytes).toList.take (pos + bytes.length) = buf.toList.take pos ++ bytes := by
  induction bytes generalizing buf pos with
  | nil => exact (List.append_nil _).symm
  | cons b bytes ih =>
    rw [List.length_cons] at fits
    have inside : pos < buf.toList.length := by
      rw [Vector.length_toList]
      omega
    have first : (buf.setIfInBounds pos b).toList.take (pos + 1) = buf.toList.take pos ++ [b] := by
      rw [Vector.toList_setIfInBounds, List.take_add_one, List.take_set_of_le (Nat.le_refl pos),
        List.getElem?_set_self inside]
      rfl
    have rest := ih (buf.setIfInBounds pos b) (pos + 1) (by omega)
    rw [first, List.append_assoc] at rest
    rw [List.length_cons, Nat.add_comm bytes.length 1, ← Nat.add_assoc]
    exact rest

/-- A writer that a text was written to: the buffer begins with as much of it as it has room for. -/
structure Wrote (w : MsgWriter) (text : String) : Prop where
  pos : w.pos = min (utf8 text).length msgBufSize
  bytes : w.buf.toList.take w.pos = (utf8 text).take msgBufSize

theorem wrote_nothing (buf : Vector UInt8 msgBufSize) : Wrote ⟨buf, 0⟩ "" := ⟨rfl, rfl⟩

/-- **A piece** is written as if it had come with what was before it. -/
theorem Wrote.writeStr {w : MsgWriter} {text : String} (wrote : Wrote w text) (s : String) :
    Wrote (w.writeStr s) (text ++ s) := by
  obtain ⟨pos, bytes⟩ := wrote
  have length : ((utf8 s).take (min (utf8 s).length (msgBufSize - w.pos))).length =
      min (utf8 s).length (msgBufSize - w.pos) := by
    rw [List.length_take]
    omega
  have room : (utf8 s).take (min (utf8 s).length (msgBufSize - w.pos)) =
      (utf8 s).take (msgBufSize - (utf8 text).length) := by
    rw [List.take_eq_take_iff]
    omega
  refine ⟨?pos, ?bytes⟩
  case pos =>
    show w.pos + min (utf8 s).length (msgBufSize - w.pos) = _
    rw [utf8_append, List.length_append]
    omega
  case bytes =>
    have follows := writeBytes_take w.buf w.pos _ (Nat.le_trans (Nat.add_le_add_left (Nat.le_of_eq length) _)
      (by omega))
    rw [length, bytes, room, ← List.take_append, ← utf8_append] at follows
    rw [← follows, ← room]
    rfl

/-- **The pieces** are written as the text they make. -/
theorem Wrote.pieces {w : MsgWriter} {text : String} (wrote : Wrote w text) (pieces : List String) :
    Wrote (pieces.foldl MsgWriter.writeStr w) (pieces.foldl (· ++ ·) text) := by
  induction pieces generalizing w text with
  | nil => exact wrote
  | cons s pieces ih => exact ih (wrote.writeStr s)

/-! ## Reading -/

/-- What is kept of a message: the longest prefix of it that fits, and nothing of an empty one. -/
def KeptOf (text : String) : Option String → Prop
  | none => text = ""
  | some kept => text ≠ "" ∧ LongestWithin msgBufSize text kept

namespace PersistRegion

/-- A region that a text was written to, as long as it says, reads back what is kept of it. -/
theorem readMessage_kept {r : PersistRegion} {w : MsgWriter} {text : String}
    (valid : r.magicValid = true) (buf : r.msgBuf = w.buf) (len : r.msgLen = UInt32.ofNat w.pos)
    (wrote : Wrote w text) : KeptOf text r.readMessage := by
  obtain ⟨pos, bytes⟩ := wrote
  have fits : w.pos ≤ msgBufSize := pos ▸ Nat.min_le_right _ _
  have length : r.msgLen.toNat = w.pos := by
    rw [len]
    exact UInt32.toNat_ofNat_of_lt' (Nat.lt_of_le_of_lt fits (by decide))
  unfold readMessage
  dsimp only
  rw [length]
  by_cases empty : text = ""
  · subst empty
    have zero : w.pos = 0 := pos
    have nothing : ¬ (r.magicValid = true ∧ w.pos > 0 ∧ w.pos ≤ msgBufSize) := by
      rintro ⟨_, some, _⟩
      exact Nat.ne_of_gt some zero
    rw [if_neg nothing]
    rfl
  · have some : w.pos > 0 := by
      rw [pos]
      exact Nat.lt_min.mpr ⟨utf8_pos empty, by decide⟩
    rw [if_pos ⟨valid, some, fits⟩, buf, bytes]
    exact ⟨empty, longest_readText text msgBufSize⟩

/-- A panic leaves the region valid, as it was or made so. -/
theorem recordAndReset_valid (r : PersistRegion) (pieces : List String) :
    (r.recordAndReset pieces).magicValid = true := by
  by_cases valid : r.magicValid = true
  · exact (recordAndReset_counters valid pieces).1
  · unfold recordAndReset
    rw [if_neg valid]
    rfl

/-- A panic leaves in the region what its writer wrote. -/
theorem recordAndReset_message (r : PersistRegion) (pieces : List String) :
    (r.recordAndReset pieces).msgBuf = (pieces.foldl MsgWriter.writeStr ⟨r.msgBuf, 0⟩).buf ∧
      (r.recordAndReset pieces).msgLen =
        UInt32.ofNat (pieces.foldl MsgWriter.writeStr ⟨r.msgBuf, 0⟩).pos := by
  unfold recordAndReset
  split <;> exact ⟨rfl, rfl⟩

/-- **The panic's message.** Whatever the region was, and however the message was split, the boot after a
panic reads back the longest prefix of the message that fits in the buffer, and none of an empty one. -/
theorem message_kept (r : PersistRegion) (pieces : List String) (timer force : Bool) :
    KeptOf (String.join pieces) ((r.recordAndReset pieces).initAtBoot timer force).2.message := by
  have valid := recordAndReset_valid r pieces
  obtain ⟨buf, len⟩ := recordAndReset_message r pieces
  rw [initAtBoot_snapshot, initAtBoot_eq valid]
  exact readMessage_kept valid buf len ((wrote_nothing r.msgBuf).pieces pieces)

end PersistRegion

end AnovaOven
