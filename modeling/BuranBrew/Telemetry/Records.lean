import BuranBrew.Telemetry.Archiver

/-! # What an entry is archived as

The row of an entry depends on the entry alone: the id that the Redis server
generates is a valid timestamp, so that the clock of the consumer is never read.
-/

namespace BuranBrew.Telemetry

open Delivery

/-- The producer's timestamp, else that of the Redis server. -/
def stamp (entry : Entry EntryId Fields) : Time :=
  match Strconv.parseInt (Archiver.field (.ofFields entry.content) "ts_ms") with
  | (ms, none) => .unixMilli ms
  | _ => .unixMilli entry.id.ms

/-- A reading without a value, or a decision without an action. -/
def Malformed : StreamName → Entry EntryId Fields → Prop
  | .sensor, entry =>
      (Strconv.parseFloat (Archiver.field (.ofFields entry.content) "value")).2 ≠ none
  | .control, entry => Archiver.field (.ofFields entry.content) "action" = ""

instance decidableMalformed : (stream : StreamName) → (entry : Entry EntryId Fields) →
    Decidable (Malformed stream entry)
  | .sensor, _ => inferInstanceAs (Decidable (_ ≠ _))
  | .control, _ => inferInstanceAs (Decidable (_ = _))

def rowFor (stream : StreamName) (entry : Entry EntryId Fields) : Row stream :=
  let values := Values.ofFields entry.content
  let field := Archiver.field values
  match stream with
  | .sensor =>
      .sensor (stamp entry) (Strconv.atoi (field "node")).1 (field "metric")
        (Strconv.parseFloat (field "value")).1 entry.id.text
  | .control =>
      .control (stamp entry) (field "action")
        (match Strconv.parseInt (field "diff_centi") with
          | (d, none) => some d
          | _ => none)
        values entry.id.text

section Rows

variable (stream : StreamName) (entry : Entry EntryId Fields)

@[simp] theorem rowFor_eventId : (rowFor stream entry).eventId = entry.id.text := by
  cases stream <;> rfl

end Rows

namespace Archiver

variable (environment : Environment)

theorem text_take (id : EntryId) :
    String.ofList (id.text.toList.take (Nat.toDigits 10 id.ms).length) =
      String.ofList (Nat.toDigits 10 id.ms) := by
  rw [EntryId.text, String.toList_ofList, List.take_left]

/-- The fallback on the clock is out of reach. -/
theorem ts_eq (entry : Entry EntryId Fields) :
    ts environment entry.id.text (.ofFields entry.content) = pure (stamp entry) := by
  have positive : (Nat.toDigits 10 entry.id.ms).length > 0 := by
    apply List.length_pos_iff.mpr
    rw [Nat.toDigits_eq_if (by decide)]
    split <;> simp
  unfold ts stamp
  rcases parsed : Strconv.parseInt (field (.ofFields entry.content) "ts_ms") with
    ⟨ms, _ | error⟩
  · rfl
  · rw [EntryId.indexByte_text]
    dsimp only
    rw [if_pos positive, text_take, Strconv.parseInt_decimal entry.id.ms.isLt]

/-- A malformed entry is dropped, any other becomes its row. -/
theorem insert_eq (stream : StreamName) (entry : Entry EntryId Fields) :
    insert environment stream entry.id.text (.ofFields entry.content) =
      if Malformed stream entry then pure none
      else exec environment (rowFor stream entry) := by
  cases stream with
  | sensor =>
      rcases parsed : Strconv.parseFloat (field (.ofFields entry.content) "value") with
        ⟨value, _ | error⟩
      · rw [if_neg (by simp [Malformed, parsed]), insert, parsed, rowFor, parsed, ts_eq]
        rfl
      · rw [if_pos (by simp [Malformed, parsed]), insert, parsed]
  | control =>
      by_cases dropped : field (.ofFields entry.content) "action" = ""
      · have malformed : Malformed .control entry := dropped
        rw [if_pos malformed, insert, if_pos dropped]
      · have wellFormed : ¬Malformed .control entry := dropped
        rw [if_neg wellFormed, insert, if_neg dropped, ts_eq]
        rfl

end Archiver

end BuranBrew.Telemetry
