import AiGateway.Base.IntText
import AiGateway.Base.Keyset
import AiGateway.Infra.Health

/-!
# Cursors

A cursor of a listing is the key of a row, a time and an id, as one text: the
microseconds of the time, a colon and the id.
-/

namespace AiGateway.Listing

set_option autoImplicit false

open AiGateway.Health AiGateway.IntText AiGateway.Keyset

/-- The times the date library has, in microseconds. -/
structure Calendar where
  earliest : Int
  latest : Int
  earliest_ge : -2 ^ 63 ≤ earliest
  latest_lt : latest < 2 ^ 63

namespace Calendar

def Holds (calendar : Calendar) (time : DateTime) : Prop :=
  calendar.earliest ≤ time ∧ time ≤ calendar.latest

instance (calendar : Calendar) (time : DateTime) : Decidable (calendar.Holds time) :=
  inferInstanceAs (Decidable (_ ∧ _))

def timestampMicros (calendar : Calendar) (micros : Int) : Option DateTime :=
  if calendar.Holds micros then some micros else none

end Calendar

def splitOnce (sep : Char) : List Char → Option (List Char × List Char)
  | [] => none
  | c :: rest =>
    if c = sep then some ([], rest)
    else (splitOnce sep rest).map fun parts => (c :: parts.1, parts.2)

theorem splitOnce_append {sep : Char} {before : List Char} (h : sep ∉ before) (after : List Char) :
    splitOnce sep (before ++ sep :: after) = some (before, after) := by
  induction before with
  | nil => exact if_pos rfl
  | cons c before ih =>
    obtain ⟨hc, hBefore⟩ := not_or.mp (mt List.mem_cons.mpr h)
    rw [List.cons_append, splitOnce, if_neg (Ne.symm hc), ih hBefore, Option.map_some]

/-! ## The text of a key -/

def encodeKey (key : DateTime × String) : String := toString key.1 ++ ":" ++ key.2

def decodeKey (calendar : Calendar) (value : String) : Option (DateTime × String) :=
  (splitOnce ':' value.toList).bind fun parts =>
    if parts.2.isEmpty then none
    else
      ((parseI64 parts.1).bind calendar.timestampMicros).map fun time =>
        (time, String.ofList parts.2)

theorem decodeKey_encodeKey {calendar : Calendar} {key : DateTime × String}
    (hTime : calendar.Holds key.1) (hId : key.2 ≠ "") :
    decodeKey calendar (encodeKey key) = some key := by
  obtain ⟨time, id⟩ := key
  have hLow : -2 ^ 63 ≤ time := calendar.earliest_ge.trans hTime.1
  have hHigh : time < 2 ^ 63 := lt_of_le_of_lt hTime.2 calendar.latest_lt
  have hColon : ':' ∉ writeInt time := not_mem_writeInt (by decide) (by decide) time
  have hText : (encodeKey (time, id)).toList = writeInt time ++ ':' :: id.toList := by
    rw [encodeKey, String.toList_append, String.toList_append, toList_toString]
    exact List.append_assoc _ _ _
  have hSome : id.toList.isEmpty = false := by
    rw [List.isEmpty_eq_false_iff, Ne, String.toList_eq_nil_iff]
    exact hId
  rw [decodeKey, hText, splitOnce_append hColon, Option.bind_some, hSome,
    parseI64_writeInt hLow hHigh, Option.bind_some, Calendar.timestampMicros, if_pos hTime,
    Option.map_some, String.ofList_toList]
  rfl

/-! ## The two cursors -/

structure EventCursor where
  occurredAt : DateTime
  eventId : String
  deriving DecidableEq, Repr

namespace EventCursor

def key (cursor : EventCursor) : DateTime × String := (cursor.occurredAt, cursor.eventId)

def encode (cursor : EventCursor) : String := encodeKey (cursor.occurredAt, cursor.eventId)

def decode (calendar : Calendar) (value : String) : Option EventCursor :=
  (decodeKey calendar value).map fun key => { occurredAt := key.1, eventId := key.2 }

theorem decode_encode {calendar : Calendar} {cursor : EventCursor}
    (hTime : calendar.Holds cursor.occurredAt) (hId : cursor.eventId ≠ "") :
    decode calendar cursor.encode = some cursor := by
  rw [decode, encode, decodeKey_encodeKey hTime hId, Option.map_some]

theorem key_injective : Function.Injective key := by
  rintro ⟨time, id⟩ ⟨time', id'⟩ h
  obtain ⟨rfl, rfl⟩ := Prod.mk.inj h
  rfl

end EventCursor

structure UsageCursor where
  createdAt : DateTime
  requestId : String
  deriving DecidableEq, Repr

namespace UsageCursor

def key (cursor : UsageCursor) : DateTime × String := (cursor.createdAt, cursor.requestId)

def encode (cursor : UsageCursor) : String := encodeKey (cursor.createdAt, cursor.requestId)

def decode (calendar : Calendar) (value : String) : Option UsageCursor :=
  (decodeKey calendar value).map fun key => { createdAt := key.1, requestId := key.2 }

theorem decode_encode {calendar : Calendar} {cursor : UsageCursor}
    (hTime : calendar.Holds cursor.createdAt) (hId : cursor.requestId ≠ "") :
    decode calendar cursor.encode = some cursor := by
  rw [decode, encode, decodeKey_encodeKey hTime hId, Option.map_some]

theorem key_injective : Function.Injective key := by
  rintro ⟨time, id⟩ ⟨time', id'⟩ h
  obtain ⟨rfl, rfl⟩ := Prod.mk.inj h
  rfl

end UsageCursor

end AiGateway.Listing
